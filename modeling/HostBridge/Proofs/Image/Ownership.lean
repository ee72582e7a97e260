import HostBridge.Proofs.Image.Album
import Mathlib.Data.List.Induction

/-!
# What bitmaps own

The bitmaps of an album and the tables of its engine are kept in step: what a bitmap has is known to
the engine until the bitmap is given back, and nothing else is.

Main statement: over any operations on the bitmaps of one engine, the engine holds exactly what the
bitmaps have that were not given back, and each of these is given back once (`Album.ownership`).
-/

namespace HostBridge

open Raster (Kind Resource Deed Watched)

variable {load : List UInt8 → Except String Raster.Picture}

/-- What a bitmap has. -/
def Bitmap.resource (bitmap : Bitmap) : Resource :=
  if bitmap.isImage then ⟨.image, bitmap.image.address⟩ else ⟨.surface, bitmap.surface.address⟩

/-- A bitmap holds one resource. -/
theorem Bitmap.resource_of_holds {bitmap : Bitmap} {resource : Resource}
    (holds : bitmap.Holds resource) : bitmap.resource = resource := by
  obtain ⟨image, surface, width, height⟩ := bitmap
  obtain ⟨kind, address⟩ := resource
  obtain ⟨solid, handle⟩ := holds
  obtain rfl : image = _ := handle .image
  obtain rfl : surface = _ := handle .surface
  cases kind with
  | image => simpa [Bitmap.resource, Bitmap.isImage, Handle.isReleased] using solid
  | surface => rfl

namespace Slot

/-- What a bitmap had when it was made. -/
def resource (slot : Slot) : Resource := slot.made.resource

/-- The address that a bitmap had when it was made. -/
def address (slot : Slot) : UInt64 := slot.resource.address

/-- Whether a bitmap has a resource of a kind that was not given back. -/
def isLive (kind : Kind) (slot : Slot) : Bool := slot.resource.kind = kind && !slot.given

/-- A bitmap is as it was made until it is given back, and empty afterwards. -/
structure Sound (slot : Slot) : Prop where
  holds : slot.made.Holds slot.resource
  kept : slot.given = false → slot.bitmap = slot.made
  emptied : slot.given = true → slot.bitmap = slot.made.emptied

end Slot

namespace Album

/-- The engine and the bitmaps agree. -/
structure Sound (album : Album (Watched load)) : Prop where
  next : album.engine.engine.next.toNat = album.slots.length + 1
  issued : ∀ slot ∈ album.slots, slot.address.toNat ≤ album.slots.length
  distinct : (album.slots.map Slot.address).Nodup
  made : album.engine.made = album.slots.map Slot.resource
  keys : ∀ kind, album.engine.keys kind =
    (album.slots.filter (Slot.isLive kind)).map Slot.address
  freed : album.engine.freed.Perm ((album.slots.filter Slot.given).map Slot.resource)
  slots : ∀ slot ∈ album.slots, slot.Sound
  known : ∀ deed ∈ album.engine.deeds, deed.isUnknown = false

variable {album : Album (Watched load)}

/-- An empty album is sound. -/
theorem Sound.initial : (new .new : Album (Watched load)).Sound where
  next := rfl
  issued := nofun
  distinct := .nil
  made := rfl
  keys := fun kind => by cases kind <;> rfl
  freed := .nil
  slots := nofun
  known := nofun

/-- The engine of a sound album is ready for the next call. -/
theorem Sound.ready (sound : album.Sound) : album.engine.Ready where
  solid := by
    intro none
    have next := sound.next
    rw [none] at next
    exact absurd next (Nat.succ_ne_zero _).symm
  fresh := by
    intro kind known
    rw [sound.keys kind] at known
    obtain ⟨slot, live, same⟩ := List.mem_map.mp known
    have issued := sound.issued slot (List.mem_filter.mp live).1
    rw [same, sound.next] at issued
    omega

/-- Each bitmap of a sound album is known to its engine. -/
theorem Sound.isKnown (sound : album.Sound) {slot : Slot} (member : slot ∈ album.slots) :
    slot.bitmap.IsKnown album.engine := by
  intro kind live
  have here := sound.slots slot member
  cases given : slot.given with
  | true =>
      rw [here.emptied given] at live
      cases kind <;> cases live
  | false =>
      rw [here.kept given] at live ⊢
      rw [here.holds.handle kind] at live ⊢
      by_cases same : kind = slot.resource.kind
      · rw [if_pos same, sound.keys kind]
        refine List.mem_map.mpr ⟨slot, List.mem_filter.mpr ⟨member, ?_⟩, rfl⟩
        simp [Slot.isLive, same, given]
      · rw [if_neg same] at live
        cases live

/-- A call that keeps the engine keeps the album sound. -/
theorem Sound.keeps (sound : album.Sound) {after : Watched load}
    (keeps : album.engine.Keeps after) : Sound ⟨after, album.slots⟩ := by
  obtain ⟨quiet, deeds, silent⟩ := keeps.deeds
  have unmade : quiet.filterMap Deed.made? = [] :=
    List.filterMap_eq_nil_iff.mpr fun deed listed => (silent deed listed).1
  have unfreed : quiet.filterMap Deed.freed? = [] :=
    List.filterMap_eq_nil_iff.mpr fun deed listed => (silent deed listed).2.1
  constructor
  · exact keeps.next ▸ sound.next
  · exact sound.issued
  · exact sound.distinct
  · rw [← sound.made, Watched.made, Watched.made, deeds, List.filterMap_append, unmade,
      List.append_nil]
  · exact fun kind => (keeps.keys kind).trans (sound.keys kind)
  · rw [Watched.freed, deeds, List.filterMap_append, unfreed, List.append_nil]
    exact sound.freed
  · exact sound.slots
  · intro deed listed
    rw [deeds] at listed
    obtain earlier | later := List.mem_append.mp listed
    · exact sound.known deed earlier
    · exact (silent deed later).2.2

/-- A call that makes a resource adds a slot that holds it. -/
theorem Sound.make (sound : album.Sound) {kind : Kind} {after : Watched load} {slot : Slot}
    (makes : album.engine.Makes kind after)
    (resource : slot.resource = ⟨kind, album.engine.engine.next⟩) (held : slot.Sound)
    (ungiven : slot.given = false) (room : after.made.length < UInt64.size - 1) :
    Sound ⟨after, album.slots ++ [slot]⟩ := by
  have address : slot.address = album.engine.engine.next := congrArg Resource.address resource
  have made : after.made = album.engine.made ++ [slot.resource] := by
    rw [Watched.made, makes.deeds, List.filterMap_append, resource]
    rfl
  rw [made, List.length_append, sound.made, List.length_map, List.length_singleton] at room
  have next := sound.next
  constructor
  · have fits : album.engine.engine.next.toNat + 1 < UInt64.size := by omega
    rw [makes.next, UInt64.toNat_add, List.length_append]
    change (_ + 1) % UInt64.size = _ + 1 + 1
    rw [Nat.mod_eq_of_lt fits, next]
  · intro other member
    rw [List.length_append]
    obtain old | new := List.mem_append.mp member
    · have issued := sound.issued other old
      omega
    · rw [List.mem_singleton.mp new, address]
      exact Nat.le_of_eq next
  · rw [List.map_append, List.map_singleton, List.nodup_append]
    refine ⟨sound.distinct, List.nodup_singleton _, ?_⟩
    rintro _ old _ new rfl
    obtain ⟨other, member, same⟩ := List.mem_map.mp old
    have issued := sound.issued other member
    rw [same, List.mem_singleton.mp new, address] at issued
    omega
  · rw [made, List.map_append, List.map_singleton, ← sound.made]
  · intro other
    rw [makes.keys other, List.filter_append, List.map_append, sound.keys other]
    have live : slot.isLive other = decide (kind = other) := by
      rw [Slot.isLive, resource, ungiven, Bool.not_false, Bool.and_true]
    by_cases same : kind = other
    · rw [if_pos same.symm, List.filter_singleton, live, decide_eq_true same, ← address]
      rfl
    · rw [if_neg (Ne.symm same), List.filter_singleton, live, decide_eq_false same]
      exact (List.append_nil _).symm
  · have unfreed : [Deed.make kind (.ok album.engine.engine.next)].filterMap Deed.freed? = [] := rfl
    rw [Watched.freed, makes.deeds, List.filterMap_append, unfreed, List.append_nil,
      List.filter_append, List.filter_singleton, ungiven, cond_false, List.append_nil]
    exact sound.freed
  · intro other member
    obtain old | new := List.mem_append.mp member
    · exact sound.slots other old
    · rw [List.mem_singleton.mp new]
      exact held
  · intro deed listed
    rw [makes.deeds] at listed
    obtain earlier | later := List.mem_append.mp listed
    · exact sound.known deed earlier
    · rw [List.mem_singleton.mp later]
      rfl

/-- A call that tries to make a bitmap keeps the album sound, whether it succeeds or not. -/
theorem Sound.hold (sound : album.Sound) {kind : Kind}
    {reply : EngineReply (Watched load) (Except BridgeError Bitmap)}
    (tries : album.engine.Tries kind
      (fun bitmap => bitmap.Holds ⟨kind, album.engine.engine.next⟩) reply)
    (room : (album.hold reply).engine.made.length < UInt64.size - 1) :
    (album.hold reply).Sound := by
  rw [engine_hold] at room
  unfold Album.hold
  obtain ⟨error, failed, keeps⟩ | ⟨bitmap, done, holds, makes⟩ := tries
  · rw [failed]
    exact sound.keeps keeps
  · have resource := bitmap.resource_of_holds holds
    rw [← resource] at holds
    rw [done]
    exact sound.make makes resource ⟨holds, fun _ => rfl, nofun⟩ rfl room

/-- An element that is found splits its list, and is replaced between the same parts. -/
theorem exists_split {α : Type} {l : List α} {index : Nat} {a : α} (found : l[index]? = some a) :
    ∃ before after, l = before ++ a :: after ∧ ∀ b, l.set index b = before ++ b :: after := by
  obtain ⟨inside, rfl⟩ := List.getElem?_eq_some_iff.mp found
  have set (b : α) : l.set index b = l.take index ++ b :: l.drop (index + 1) := by
    rw [List.set_eq_take_append_cons_drop, if_pos inside]
  exact ⟨_, _, (List.set_getElem_self inside).symm.trans (set _), set⟩

/-- Freeing an address that no slot has leaves the live addresses. -/
theorem filter_live_of_absent {kind : Kind} {slots : List Slot} {address : UInt64}
    (absent : address ∉ slots.map Slot.address) :
    ((slots.filter (Slot.isLive kind)).map Slot.address).filter
        (fun key => !decide (key = address)) =
      (slots.filter (Slot.isLive kind)).map Slot.address := by
  rw [List.filter_eq_self]
  intro key member
  obtain ⟨slot, live, rfl⟩ := List.mem_map.mp member
  have different : slot.address ≠ address := by
    rintro rfl
    exact absent (List.mem_map_of_mem (List.mem_filter.mp live).1)
  rw [decide_eq_false different, Bool.not_false]

section GiveBack

variable {before after : List Slot} {old new : Slot} (live : old.given = false)
  (given : new.given = true)

include live given

/-- The addresses of live bitmaps, when one of them is given back. -/
theorem filter_live_giveBack (kind : Kind)
    (distinct : ((before ++ old :: after).map Slot.address).Nodup) :
    ((before ++ new :: after).filter (Slot.isLive kind)).map Slot.address =
      if kind = old.resource.kind then
        (((before ++ old :: after).filter (Slot.isLive kind)).map Slot.address).filter
          (fun key => !decide (key = old.address))
      else ((before ++ old :: after).filter (Slot.isLive kind)).map Slot.address := by
  rw [List.map_append, List.map_cons, List.nodup_middle, List.nodup_cons, List.mem_append,
    not_or] at distinct
  obtain ⟨⟨absentBefore, absentAfter⟩, _⟩ := distinct
  have gone : ¬ new.isLive kind = true := by simp [Slot.isLive, given]
  rw [List.filter_append, List.filter_append, List.filter_cons_of_neg gone]
  by_cases same : kind = old.resource.kind
  · have here : old.isLive kind = true := by simp [Slot.isLive, same, live]
    rw [if_pos same, List.filter_cons_of_pos here, List.map_append, List.map_append, List.map_cons,
      List.filter_append, List.filter_cons_of_neg (by simp), filter_live_of_absent absentBefore,
      filter_live_of_absent absentAfter]
  · have other : ¬ old.isLive kind = true := by simp [Slot.isLive, Ne.symm same]
    rw [if_neg same, List.filter_cons_of_neg other]

/-- A slot that gives back its resource frees that one and no other. -/
theorem Sound.free (sound : album.Sound) {engine : Watched load}
    (split : album.slots = before ++ old :: after) (made : new.made = old.made) (held : new.Sound)
    (frees : album.engine.Frees old.resource engine) :
    Sound ⟨engine, before ++ new :: after⟩ := by
  have resource : new.resource = old.resource := congrArg Bitmap.resource made
  have same {α : Type} (f : Slot → α) (kept : f new = f old) :
      (before ++ new :: after).map f = album.slots.map f := by
    rw [split, List.map_append, List.map_append, List.map_cons, List.map_cons, kept]
  have addresses := same Slot.address (congrArg Resource.address resource)
  have length : (before ++ new :: after).length = album.slots.length := by
    rw [← List.length_map Slot.address, addresses, List.length_map]
  constructor
  · rw [frees.next, length]
    exact sound.next
  · intro slot member
    have listed := List.mem_map_of_mem (f := Slot.address) member
    rw [addresses] at listed
    obtain ⟨earlier, member, address⟩ := List.mem_map.mp listed
    rw [length, ← address]
    exact sound.issued earlier member
  · rw [addresses]
    exact sound.distinct
  · rw [same Slot.resource resource, ← sound.made, Watched.made, Watched.made, frees.deeds,
      List.filterMap_append]
    exact List.append_nil _
  · intro kind
    have keys := sound.keys kind
    have distinct := sound.distinct
    rw [split] at keys distinct
    rw [filter_live_giveBack live given kind distinct, ← keys]
    exact frees.keys kind
  · have freed := sound.freed
    have ungiven : ¬ old.given = true := (Bool.not_eq_true _).mpr live
    have released : [Deed.release old.resource].filterMap Deed.freed? = [new.resource] := by
      rw [resource]
      rfl
    rw [split, List.filter_append, List.filter_cons_of_neg ungiven, List.map_append] at freed
    rw [Watched.freed, frees.deeds, List.filterMap_append, released, List.filter_append,
      List.filter_cons_of_pos given, List.map_append, List.map_cons]
    exact (List.perm_append_singleton _ _).trans ((freed.cons _).trans List.perm_middle.symm)
  · intro slot member
    obtain earlier | here := List.mem_append.mp member
    · exact sound.slots slot (split ▸ List.mem_append_left _ earlier)
    · obtain rfl | later := List.mem_cons.mp here
      · exact held
      · exact sound.slots slot (split ▸ List.mem_append_right _ (List.mem_cons_of_mem _ later))
  · intro deed listed
    rw [frees.deeds] at listed
    obtain earlier | later := List.mem_append.mp listed
    · exact sound.known deed earlier
    · rw [List.mem_singleton.mp later]
      rfl

end GiveBack

/-- Giving back a bitmap, once or again, keeps the album sound. -/
theorem Sound.giveBack (sound : album.Sound) (index : Nat) : (album.giveBack index).Sound := by
  unfold Album.giveBack
  cases found : album.slots[index]? with
  | none => exact sound
  | some slot =>
      obtain ⟨before, after, split, set⟩ := exists_split found
      obtain ⟨made, bitmap, given⟩ := slot
      have here := sound.slots _ (split ▸ List.mem_append_cons_self)
      dsimp only
      rw [set]
      cases given with
      | true =>
          obtain rfl : bitmap = made.emptied := here.emptied rfl
          obtain ⟨engine, result⟩ := Bitmap.release_emptied album.engine made
          rw [engine, result, ← split]
          exact sound
      | false =>
          obtain rfl : bitmap = made := here.kept rfl
          obtain ⟨frees, result⟩ := Bitmap.release_of_holds album.engine here.holds
          rw [result]
          exact sound.free rfl rfl split rfl ⟨here.holds, nofun, fun _ => rfl⟩ frees

/-- Every step keeps the album sound, as long as addresses do not wrap around. -/
theorem Sound.moves (sound : album.Sound) {step : AlbumStep} {after : Album (Watched load)}
    (moves : album.Moves step after) (room : after.engine.made.length < UInt64.size - 1) :
    after.Sound := by
  cases moves with
  | makes _ _ tries => exact sound.hold (tries sound.ready) room
  | asks _ _ keeps => exact sound.keeps (keeps fun _ => sound.isKnown)
  | gives _ => exact sound.giveBack _

/-- Every run keeps the album sound, as long as addresses do not wrap around. -/
theorem Sound.run (steps : List AlbumStep)
    (room : (run load steps).engine.made.length < UInt64.size - 1) : (run load steps).Sound := by
  induction steps using List.reverseRecOn with
  | nil => exact .initial
  | append_singleton steps step ih =>
      rw [run_concat] at room ⊢
      have earlier := ih (Nat.lt_of_le_of_lt (made_step_le _ step) room)
      exact earlier.moves (moves_step _ step) room

/-- What the bitmaps of an album own, and what became of what they owned. -/
structure Owns (album : Album (Watched load)) : Prop where
  /-- One handle holds what was made until the bitmap is given back, and none afterwards. -/
  live : ∀ slot ∈ album.slots, slot.given = false →
    slot.bitmap.image = slot.made.image ∧ slot.bitmap.surface = slot.made.surface ∧
      ((slot.bitmap.image.address ≠ 0 ∧ slot.bitmap.surface.address = 0) ∨
        (slot.bitmap.image.address = 0 ∧ slot.bitmap.surface.address ≠ 0))
  gone : ∀ slot ∈ album.slots, slot.given = true →
    slot.bitmap.image.address = 0 ∧ slot.bitmap.surface.address = 0
  size : ∀ slot ∈ album.slots,
    slot.bitmap.width = slot.made.width ∧ slot.bitmap.height = slot.made.height
  liveImages : album.engine.engine.liveImages =
    album.slots.countP (fun slot => slot.made.isImage && !slot.given)
  liveSurfaces : album.engine.engine.liveSurfaces =
    album.slots.countP (fun slot => slot.made.isSurface && !slot.given)
  /-- Whatever the engine made is had by one bitmap. -/
  made : album.engine.made = album.slots.map Slot.resource
  distinct : album.engine.made.Nodup
  freed : ∀ slot ∈ album.slots,
    album.engine.freed.count slot.resource = if slot.given then 1 else 0
  nothingElse : ∀ resource ∈ album.engine.freed, ∃ slot ∈ album.slots,
    slot.given = true ∧ slot.resource = resource
  settled : (∀ slot ∈ album.slots, slot.given = true) → album.engine.freed.Perm album.engine.made
  known : ∀ deed ∈ album.engine.deeds, deed.isUnknown = false

/-- A bitmap is an image or a surface as its resource is. -/
theorem Sound.isImage (sound : album.Sound) {slot : Slot} (member : slot ∈ album.slots) :
    slot.made.isImage = decide (slot.resource.kind = .image) ∧
      slot.made.isSurface = decide (slot.resource.kind = .surface) := by
  obtain ⟨solid, handle⟩ := (sound.slots slot member).holds
  rw [Bitmap.isImage, Bitmap.isSurface, show slot.made.image = _ from handle .image,
    show slot.made.surface = _ from handle .surface]
  cases slot.resource.kind with
  | image => simp [Handle.isReleased, Handle.empty, solid]
  | surface => simp [Handle.isReleased, Handle.empty, solid]

/-- No two slots hold the same resource. -/
theorem Sound.resources_nodup (sound : album.Sound) :
    (album.slots.map Slot.resource).Nodup := by
  have composed : album.slots.map Slot.address =
      (album.slots.map Slot.resource).map Resource.address :=
    List.map_map.symm
  exact (composed ▸ sound.distinct).of_map _

/-- The engine holds as many resources of a kind as there are live slots of it. -/
theorem Sound.size_table (sound : album.Sound) (kind : Kind) :
    (album.engine.engine.table kind).size = album.slots.countP (Slot.isLive kind) := by
  have keys := congrArg List.length (sound.keys kind)
  rw [List.length_map, ← List.countP_eq_length_filter] at keys
  rw [← keys]
  exact (List.length_map _).symm

/-- A sound album owns what its engine holds. -/
theorem Sound.owns (sound : album.Sound) : album.Owns where
  live := by
    intro slot member ungiven
    have here := sound.slots slot member
    rw [here.kept ungiven]
    refine ⟨rfl, rfl, ?_⟩
    obtain ⟨solid, handle⟩ := here.holds
    rw [show slot.made.image = _ from handle .image,
      show slot.made.surface = _ from handle .surface]
    cases slot.resource.kind with
    | image => exact .inl ⟨solid, rfl⟩
    | surface => exact .inr ⟨rfl, solid⟩
  gone := by
    intro slot member given
    rw [(sound.slots slot member).emptied given]
    exact ⟨rfl, rfl⟩
  size := by
    intro slot member
    have here := sound.slots slot member
    cases given : slot.given with
    | false =>
        rw [here.kept given]
        exact ⟨rfl, rfl⟩
    | true =>
        rw [here.emptied given]
        exact ⟨rfl, rfl⟩
  liveImages := by
    refine (sound.size_table .image).trans (List.countP_congr fun slot member => ?_)
    rw [Slot.isLive, (sound.isImage member).1]
  liveSurfaces := by
    refine (sound.size_table .surface).trans (List.countP_congr fun slot member => ?_)
    rw [Slot.isLive, (sound.isImage member).2]
  made := sound.made
  distinct := by
    rw [sound.made]
    exact sound.resources_nodup
  freed := by
    intro slot member
    rw [sound.freed.count_eq]
    cases given : slot.given with
    | true =>
        have distinct := sound.resources_nodup.sublist
          ((List.filter_sublist (p := Slot.given)).map Slot.resource)
        exact List.count_eq_one_of_mem distinct
          (List.mem_map_of_mem (List.mem_filter.mpr ⟨member, given⟩))
    | false =>
        refine List.count_eq_zero.mpr fun listed => ?_
        obtain ⟨other, kept, same⟩ := List.mem_map.mp listed
        obtain ⟨present, freed⟩ := List.mem_filter.mp kept
        have one := List.inj_on_of_nodup_map sound.resources_nodup present member same
        rw [one, given] at freed
        cases freed
  nothingElse := by
    intro resource member
    obtain ⟨slot, given, same⟩ := List.mem_map.mp (sound.freed.mem_iff.mp member)
    obtain ⟨member, given⟩ := List.mem_filter.mp given
    exact ⟨slot, member, given, same⟩
  settled := by
    intro all
    have every : album.slots.filter Slot.given = album.slots := List.filter_eq_self.mpr all
    have freed := sound.freed
    rw [every, ← sound.made] at freed
    exact freed
  known := sound.known

/-- A watched run is the run of the engine with a watch on it. -/
theorem map_run (steps : List AlbumStep) :
    (run Raster.Netpbm.load steps).map Watched.engine = steps.foldl step (new .new) :=
  map_steps Watched.shows_engine _ steps

/-- Over any operations on the bitmaps of one engine that makes fewer than `UInt64.size - 1`
resources, the bitmaps own what the engine holds until they are released or dropped, and each of
them gives back once what it owned.  With the engine's own codec, writing its calls down changes
nothing. -/
theorem ownership (load : List UInt8 → Except String Raster.Picture) (steps : List AlbumStep)
    (room : (run load steps).engine.made.length < UInt64.size - 1) :
    (run load steps).Owns ∧ Follows load steps ∧
      (load = Raster.Netpbm.load →
        (run load steps).map Watched.engine = steps.foldl step (new Raster.Engine.new)) := by
  refine ⟨(Sound.run steps room).owns, follows_run load steps, ?_⟩
  rintro rfl
  exact map_run steps

/-- A bitmap that is released before it is dropped, and a draw from it in between. -/
theorem ownership_of_release :
    let load := Raster.Netpbm.load
    let steps : List AlbumStep := [.decode [80, 53, 32, 50, 32, 49, 32, 50, 53, 53, 10, 0, 255],
      .decode [2], .create 3 3, .release 0, .draw 1 0 ⟨0, 0, 2, 1⟩ ⟨0, 0, 2, 1⟩, .drop 0]
    (run load steps).engine.made = [⟨.image, 1⟩, ⟨.surface, 2⟩] ∧
      (run load steps).engine.freed = [⟨.image, 1⟩] ∧
      (run load steps).Owns ∧ Follows load steps ∧
        (run load steps).map Watched.engine = steps.foldl step (new Raster.Engine.new) := by
  intro load steps
  have made : (run load steps).engine.made = [⟨.image, 1⟩, ⟨.surface, 2⟩] := by decide +kernel
  have room : (run load steps).engine.made.length < UInt64.size - 1 := by
    rw [made]
    decide
  obtain ⟨owns, follows, plain⟩ := ownership load steps room
  exact ⟨made, by decide +kernel, owns, follows, plain rfl⟩

end Album

end HostBridge
