import HostBridge.Proofs.Table
import HostBridge.Session.Services
import Mathlib.Data.List.Induction
import Mathlib.Data.String.Basic

/-!
# Addresses of cookies

A cookie is kept under the exact text of its address, once the address has a scheme.  Whether it has
one is told by its first four bytes: addresses led by the letters of a web scheme are left as they
are, and all others are taken as plain web addresses.

Main statements: what the decision says about letters and about bytes (`startsLikeWebAddress_iff`,
`withScheme_of_uncut`), that it is final (`withScheme_withScheme`), and under which addresses a
session reads what was written under others (`normalization`).
-/

namespace HostBridge

/-- An address begins with given letters, in any case. -/
def LedBy (letters url : String) : Prop :=
  ∃ front back : String, url = front ++ back ∧ sameIgnoringCase front letters = true

/-- Two texts are the same ignoring case when their characters are in lower case. -/
theorem sameIgnoringCase_iff {a b : String} :
    sameIgnoringCase a b = true ↔ a.toList.map Char.toLower = b.toList.map Char.toLower :=
  decide_eq_true_iff

/-- What is led by some letters is led by the first of them. -/
theorem LedBy.of_append {letters more url : String} (led : LedBy (letters ++ more) url) :
    LedBy letters url := by
  obtain ⟨front, back, rfl, same⟩ := led
  rw [sameIgnoringCase_iff, String.toList_append, List.map_append, List.map_eq_append_iff] at same
  obtain ⟨first, rest, split, same, _⟩ := same
  refine ⟨String.ofList first, String.ofList rest ++ back, ?_, ?_⟩
  · rw [← String.append_assoc, ← String.ofList_append, ← split, String.ofList_toList]
  · rw [sameIgnoringCase_iff, String.toList_ofList]
    exact same

/-- A URL with the scheme put in front starts with its letters. -/
theorem ledBy_plainScheme (url : String) : LedBy "http" ("http://" ++ url) := by
  have letters : "http://" = "http" ++ "://" := by decide
  rw [letters, String.append_assoc]
  exact ⟨"http", _, rfl, sameIgnoringCase_iff.mpr rfl⟩

/-! ### Letters and bytes -/

theorem utf8Size_toLower (c : Char) : c.toLower.utf8Size = c.utf8Size := by
  unfold Char.toLower
  split
  next upper =>
    have most : c.val.toNat ≤ 90 := UInt32.le_iff_toNat_le.mp upper.2
    have lowered : (c.val + ('a'.val - 'A'.val)).toNat = (c.val.toNat + 32) % 4294967296 :=
      UInt32.toNat_add _ _
    have before : c.utf8Size = 1 := by
      rw [Char.utf8Size_eq_one_iff, UInt32.le_iff_toNat_le]
      exact most.trans (by decide)
    rw [before, Char.utf8Size_eq_one_iff, UInt32.le_iff_toNat_le]
    change (c.val + ('a'.val - 'A'.val)).toNat ≤ 127
    omega
  next => rfl

/-- A text in lower case takes as many bytes. -/
theorem utf8Len_map_toLower (cs : List Char) :
    String.utf8Len (cs.map Char.toLower) = String.utf8Len cs := by
  induction cs with
  | nil => rfl
  | cons c cs ih =>
      rw [List.map_cons, String.utf8Len_cons, String.utf8Len_cons, ih, utf8Size_toLower]

/-- The case of letters does not matter for the number of bytes. -/
theorem byteLength_of_sameIgnoringCase {a b : String} (same : sameIgnoringCase a b = true) :
    Text.byteLength a = Text.byteLength b := by
  have length (s : String) : Text.byteLength s = String.utf8Len (s.toList.map Char.toLower) := by
    rw [utf8Len_map_toLower, ← String.utf8ByteSize_ofList, String.ofList_toList]
    rfl
  rw [length, length, sameIgnoringCase_iff.mp same]

/-- The test on the bytes is the test on the letters. -/
theorem startsLikeWebAddress_iff (url : String) :
    startsLikeWebAddress url = true ↔ LedBy "http" url := by
  have letters : "http".toList.map Char.toLower = ['h', 't', 't', 'p'] := by decide
  unfold startsLikeWebAddress
  constructor
  · intro starts
    split at starts
    next a b c d rest split =>
      refine ⟨String.ofList [a, b, c, d], String.ofList rest, ?_, ?_⟩
      · rw [← String.ofList_append, ← String.ofList_toList (s := url), split]
        rfl
      · rw [sameIgnoringCase_iff, String.toList_ofList, letters]
        exact of_decide_eq_true starts
    next => cases starts
  · rintro ⟨front, back, rfl, same⟩
    rw [sameIgnoringCase_iff, letters] at same
    simp only [List.map_eq_cons_iff, List.map_eq_nil_iff] at same
    obtain ⟨a, _, split, first, b, _, rfl, second, c, _, rfl, third, d, _, rfl, fourth, rfl⟩ := same
    rw [String.toList_append, split]
    simp only [List.cons_append, List.map_cons, List.map_nil, first, second, third, fourth,
      decide_true]

/-! ### Addresses with a scheme -/

theorem withScheme_of_led {url : String} (led : LedBy "http" url) : withScheme url = url :=
  if_pos ((startsLikeWebAddress_iff url).mpr led)

/-- Any other URL is given the scheme. -/
theorem withScheme_of_not_led {url : String} (plain : ¬ LedBy "http" url) :
    withScheme url = "http://" ++ url :=
  if_neg (mt (startsLikeWebAddress_iff url).mp plain)

/-- An address that cannot be cut after four bytes, because it is shorter or a character goes on
there, has no scheme. -/
theorem withScheme_of_uncut {url : String}
    (uncut : ∀ front back, url = front ++ back → Text.byteLength front ≠ 4) :
    withScheme url = "http://" ++ url := by
  apply withScheme_of_not_led
  rintro ⟨front, back, split, same⟩
  exact uncut front back split (byteLength_of_sameIgnoringCase same)

/-- With its scheme every URL starts with the letters of the scheme. -/
theorem ledBy_withScheme (url : String) : LedBy "http" (withScheme url) := by
  by_cases led : LedBy "http" url
  · rw [withScheme_of_led led]
    exact led
  · rw [withScheme_of_not_led led]
    exact ledBy_plainScheme url

/-- A URL is given a scheme at most once. -/
theorem withScheme_withScheme (url : String) : withScheme (withScheme url) = withScheme url :=
  withScheme_of_led (ledBy_withScheme url)

/-- A URL with the scheme put in front is another URL. -/
theorem prefixed_ne (url : String) : "http://" ++ url ≠ url := by
  intro same
  have none : "http://" ++ url = "" ++ url := same.trans String.empty_append.symm
  exact absurd ((String.append_left_inj url).mp none) (by decide)

theorem prefixed_ne_empty (url : String) : "http://" ++ url ≠ "" := by
  intro same
  exact absurd (String.append_eq_empty_iff.mp same).1 (by decide)

namespace Session.State

variable {state : State}

/-! ### One write, one reading -/

/-- A write is one that the store is asked for. -/
def IsKept (write : String × String) : Prop := write.1 ≠ "" ∧ write.2 ≠ ""

instance : DecidablePred IsKept := fun _ => inferInstanceAs (Decidable (_ ∧ _))

/-- What the store sees of a write, and what it keeps of it. -/
theorem setCookie_of_kept (enabled : state.context.cookies.isEnabled = true) {url value : String}
    (kept : IsKept (url, value)) :
    (state.setCookie url value).1.seen = state.seen ++ [.jarSet (withScheme url) value] ∧
      (state.setCookie url value).1.context.cookies = state.context.cookies ∧
      (state.jar.failure = none → (state.setCookie url value).1.jar =
        ⟨state.jar.cookies.insert (withScheme url) value, none⟩) := by
  have target : state.context.cookies.setTarget? url value = some (withScheme url) := by
    simp [CookieBridge.setTarget?, enabled, kept.1, kept.2]
  unfold setCookie
  simp only [target]
  cases failing : state.jar.failure with
  | none =>
      simp only [note, Context.note, saw, failing, forall_const, and_self]
  | some error =>
      simp only [note, Context.note, saw, failing, reduceCtorEq, false_implies, and_self]

/-- A cookie that is not kept changes nothing. -/
theorem setCookie_of_not_kept {url value : String} (refused : ¬ IsKept (url, value)) :
    (state.setCookie url value).1.seen = state.seen ∧
      (state.setCookie url value).1.context.cookies = state.context.cookies ∧
      (state.setCookie url value).1.jar = state.jar := by
  have target : state.context.cookies.setTarget? url value = none := by
    have empty : url ≠ "" → value = "" := fun addressed => by
      by_contra filled
      exact refused ⟨addressed, filled⟩
    simpa [CookieBridge.setTarget?] using fun _ => empty
  unfold setCookie
  simp only [target]
  exact ⟨rfl, rfl, rfl⟩

/-- With cookies enabled the jar is asked for the URL with its scheme. -/
theorem getCookie_of_enabled (enabled : state.context.cookies.isEnabled = true) {url : String}
    (addressed : url ≠ "") :
    (state.getCookie url).1.seen = state.seen ++ [.jarGet (withScheme url)] ∧
      (state.jar.failure = none → (state.getCookie url).2 =
        (state.jar.cookies.find? (withScheme url)).filter (· ≠ "")) := by
  have asked : state.context.cookies.reading url = .asked (withScheme url) := by
    simp [CookieBridge.reading, enabled, addressed]
  unfold getCookie
  simp only [asked]
  cases failing : state.jar.failure with
  | none =>
      simp [note, Context.note, saw, failing, CookieBridge.cookieOf]
  | some error =>
      simp [note, Context.note, saw, failing]

/-! ### Several writes -/

/-- Write several cookies, one after another. -/
def setCookies (state : State) (writes : List (String × String)) : State :=
  writes.foldl (fun state write => (state.setCookie write.1 write.2).1) state

/-- What was written last under addresses that come to a given one. -/
def lastWritten (writes : List (String × String)) (target : String) : Option String :=
  ((writes.filter (fun write => IsKept write ∧ withScheme write.1 = target)).getLast?).map Prod.snd

theorem setCookies_snoc (state : State) (writes : List (String × String))
    (write : String × String) :
    state.setCookies (writes ++ [write]) =
      ((state.setCookies writes).setCookie write.1 write.2).1 :=
  List.foldl_concat ..

/-- The last cookie written is the newest one that was kept for the URL. -/
theorem lastWritten_snoc (writes : List (String × String)) (write : String × String)
    (target : String) :
    lastWritten (writes ++ [write]) target =
      if IsKept write ∧ withScheme write.1 = target then some write.2
      else lastWritten writes target := by
  rw [lastWritten, List.filter_append, List.filter_singleton]
  by_cases hit : IsKept write ∧ withScheme write.1 = target
  · rw [if_pos hit, decide_eq_true hit, cond_true, List.getLast?_concat, Option.map_some]
  · rw [if_neg hit, decide_eq_false hit, cond_false, List.append_nil]
    rfl

/-- A store that works has what was written last under each address, and else what it had. -/
theorem setCookies_of_enabled (enabled : state.context.cookies.isEnabled = true)
    (works : state.jar.failure = none) (writes : List (String × String)) :
    (state.setCookies writes).context.cookies = state.context.cookies ∧
      (state.setCookies writes).jar.failure = none ∧
      ∀ target, (state.setCookies writes).jar.cookies.find? target =
        (lastWritten writes target).or (state.jar.cookies.find? target) := by
  induction writes using List.reverseRecOn with
  | nil => exact ⟨rfl, works, fun _ => rfl⟩
  | append_singleton writes write ih =>
      obtain ⟨cookies, working, found⟩ := ih
      rw [setCookies_snoc]
      by_cases kept : IsKept write
      · obtain ⟨_, same, jar⟩ := setCookie_of_kept (cookies ▸ enabled) kept
        rw [same, jar working]
        refine ⟨cookies, rfl, fun target => ?_⟩
        rw [Table.find?_insert, lastWritten_snoc, found]
        by_cases hit : withScheme write.1 = target
        · rw [if_pos hit.symm, if_pos ⟨kept, hit⟩, Option.some_or]
        · rw [if_neg (Ne.symm hit), if_neg (fun both => hit both.2)]
      · obtain ⟨_, same, jar⟩ := @setCookie_of_not_kept (state.setCookies writes) _ _ kept
        rw [same, jar]
        refine ⟨cookies, working, fun target => ?_⟩
        rw [lastWritten_snoc, if_neg (fun both => kept both.1), found]

/-- After several writes the jar gives the last one kept, or what it gave before. -/
theorem getCookie_setCookies (enabled : state.context.cookies.isEnabled = true)
    (works : state.jar.failure = none) (writes : List (String × String)) {url : String}
    (addressed : url ≠ "") :
    ((state.setCookies writes).getCookie url).2 =
      (lastWritten writes (withScheme url)).or (state.getCookie url).2 := by
  obtain ⟨cookies, working, found⟩ := setCookies_of_enabled enabled works writes
  rw [(getCookie_of_enabled (cookies ▸ enabled) addressed).2 working, found,
    (getCookie_of_enabled enabled addressed).2 works]
  cases last : lastWritten writes (withScheme url) with
  | none => rw [Option.none_or, Option.none_or]
  | some value =>
      obtain ⟨write, final, rfl⟩ := Option.map_eq_some_iff.mp last
      have listed := List.mem_of_getLast? final
      have kept : IsKept write := (of_decide_eq_true (List.mem_filter.mp listed).2).1
      rw [Option.some_or, Option.some_or, Option.filter_some, if_pos (decide_eq_true kept.2)]

/-! ### Addresses in a session -/

/-- Under which addresses a session keeps cookies and asks for them. -/
structure Normalizes (state : State) : Prop where
  /-- The store is asked to keep a cookie under the address with a scheme. -/
  reached : ∀ url value, IsKept (url, value) →
    (state.setCookie url value).1.seen = state.seen ++ [.jarSet (withScheme url) value]
  asked : ∀ url, url ≠ "" →
    (state.getCookie url).1.seen = state.seen ++ [.jarGet (withScheme url)]
  /-- A scheme is put in front of addresses that are not led by its letters. -/
  plain : ∀ url, ¬ LedBy "http" url → withScheme url = "http://" ++ url
  /-- An address that cannot be cut after four bytes, because it is shorter or a character goes on
  there, is one of them. -/
  uncut : ∀ url, (∀ front back, url = front ++ back → Text.byteLength front ≠ 4) →
    withScheme url = "http://" ++ url
  /-- All others are left alone: those with the scheme, and those that are just led by its
  letters. -/
  led : ∀ url, LedBy "http" url → withScheme url = url
  web : ∀ url, LedBy "http://" url ∨ LedBy "https://" url → withScheme url = url
  final : ∀ url, withScheme (withScheme url) = withScheme url
  /-- A store that works gives what was written last under any address that comes to the same
  one. -/
  read : state.jar.failure = none → ∀ writes url, url ≠ "" →
    ((state.setCookies writes).getCookie url).2 =
      (lastWritten writes (withScheme url)).or (state.getCookie url).2
  /-- So an address and the one with a scheme in front of it share their cookie, … -/
  shared : state.jar.failure = none → ∀ url value, IsKept (url, value) → ¬ LedBy "http" url →
    ((state.setCookie url value).1.getCookie ("http://" ++ url)).2 = some value ∧
      ((state.setCookie ("http://" ++ url) value).1.getCookie url).2 = some value
  /-- … but not where the address is led by the letters of a scheme. -/
  apart : state.jar.failure = none → ∀ url value, IsKept (url, value) → LedBy "http" url →
    ((state.setCookie url value).1.getCookie url).2 = some value ∧
      ((state.setCookie url value).1.getCookie ("http://" ++ url)).2 =
        (state.getCookie ("http://" ++ url)).2

/-- What is read after one write. -/
theorem getCookie_setCookie (enabled : state.context.cookies.isEnabled = true)
    (works : state.jar.failure = none) {url value other : String} (kept : IsKept (url, value))
    (addressed : other ≠ "") :
    ((state.setCookie url value).1.getCookie other).2 =
      if withScheme url = withScheme other then some value else (state.getCookie other).2 := by
  have read := getCookie_setCookies enabled works [(url, value)] addressed
  rw [← List.nil_append [(url, value)], setCookies_snoc, lastWritten_snoc] at read
  refine read.trans ?_
  by_cases same : withScheme url = withScheme other
  · rw [if_pos ⟨kept, same⟩, if_pos same, Option.some_or]
  · rw [if_neg (fun both => same both.2), if_neg same]
    rfl

/-- A bridge that uses its store puts a scheme in front of every address that is not led by the
letters of one, and leaves all others alone; cookies are shared between the addresses that come to
the same one, and between no others. -/
theorem normalization (enabled : state.context.cookies.isEnabled = true) : Normalizes state where
  reached url value kept := (setCookie_of_kept enabled kept).1
  asked url addressed := (getCookie_of_enabled enabled addressed).1
  plain _ := withScheme_of_not_led
  uncut _ := withScheme_of_uncut
  led _ := withScheme_of_led
  web url led := by
    have plain : "http://" = "http" ++ "://" := by decide
    have secure : "https://" = "http" ++ "s://" := by decide
    rw [plain, secure] at led
    exact withScheme_of_led (led.elim LedBy.of_append LedBy.of_append)
  final := withScheme_withScheme
  read works writes url := getCookie_setCookies enabled works writes
  shared works url value kept led := by
    have same : withScheme ("http://" ++ url) = withScheme url := by
      rw [← withScheme_of_not_led led, withScheme_withScheme]
    constructor
    · rw [getCookie_setCookie enabled works kept (prefixed_ne_empty url), if_pos same.symm]
    · rw [getCookie_setCookie enabled works ⟨prefixed_ne_empty url, kept.2⟩ kept.1, if_pos same]
  apart works url value kept led := by
    have other := withScheme_of_led (ledBy_plainScheme url)
    constructor
    · rw [getCookie_setCookie enabled works kept kept.1, if_pos rfl]
    · rw [getCookie_setCookie enabled works kept (prefixed_ne_empty url), other,
        withScheme_of_led led, if_neg (prefixed_ne url).symm]

/-- A new session that uses its cookie store. -/
def withCookies : State :=
  (State.new { Config.bare with cookies := true, features := ⟨true, false⟩ } .none .none
    Complaint.silent).toOption.get rfl

/-- An address without a scheme whose fourth byte is within a character. -/
theorem normalization_of_umlaut :
    withCookies.context.cookies.isEnabled = true ∧ withCookies.jar.failure = none ∧
      Text.byteLength "büß" = 5 ∧
      ((withCookies.setCookie "büß" "a=1").1.getCookie "http://büß").2 = some "a=1" ∧
      ((withCookies.setCookie "http://büß" "a=1").1.getCookie "büß").2 = some "a=1" := by
  have enabled : withCookies.context.cookies.isEnabled = true := by decide
  have plain : ¬ LedBy "http" "büß" := by
    rw [← startsLikeWebAddress_iff]
    decide
  obtain ⟨forth, back⟩ := (normalization enabled).shared rfl "büß" "a=1" (by decide) plain
  exact ⟨enabled, rfl, by decide, forth, back⟩

/-- A host whose name is led by the letters of a scheme: the store is asked to keep the cookie under
the bare name, and no cookie is found under the address with a scheme. -/
theorem host_shares_no_cookie :
    withCookies.context.cookies.isEnabled = true ∧ withCookies.jar.failure = none ∧
      ':' ∉ "httpbin.org".toList ∧
      (withCookies.setCookie "httpbin.org" "a=1").1.seen = [.jarSet "httpbin.org" "a=1"] ∧
      ((withCookies.setCookie "httpbin.org" "a=1").1.getCookie "http://httpbin.org").2 = none ∧
      ((withCookies.setCookie "http://httpbin.org" "a=1").1.getCookie "httpbin.org").2 = none := by
  refine ⟨by decide, rfl, by decide, ?_, ?_, ?_⟩
  · rfl
  · rfl
  · rfl

end Session.State

end HostBridge
