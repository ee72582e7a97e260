import HostBridge.Text.CodeTable

/-!
# Marks

The characters of the general category Mark: those that take no room of their own, and those that
do.
-/

namespace HostBridge.Text

/-- Whether a mark takes room of its own. -/
inductive MarkKind where
  | nonspacing
  | spacing
deriving DecidableEq, Repr

/-- The kind that a letter of the table stands for. -/
def MarkKind.read? : List Char → Option MarkKind
  | ['n'] => some .nonspacing
  | ['s'] => some .spacing
  | _ => none

/-- The marks; the letter n is for those that take no room. -/
def markRows : List String :=
  ["300-36F:n 483-489:n 591-5BD:n 5BF:n 5C1-5C2:n 5C4-5C5:n 5C7:n 610-61A:n 64B-65F:n 670:n",
   "6D6-6DC:n 6DF-6E4:n 6E7-6E8:n 6EA-6ED:n 711:n 730-74A:n 7A6-7B0:n 7EB-7F3:n 7FD:n 816-819:n",
   "81B-823:n 825-827:n 829-82D:n 859-85B:n 897-89F:n 8CA-902:n 903:s 93A:n 93B:s 93C:n 93E-940:s",
   "941-948:n 949-94C:s 94D:n 94E-94F:s 951-957:n 962-963:n 981:n 982-983:s 9BC:n 9BE-9C0:s",
   "9C1-9C4:n 9C7-9CC:s 9CD:n 9D7:s 9E2-9E3:n 9FE-A02:n A03:s A3C:n A3E-A40:s A41-A51:n A70-A71:n",
   "A75:n A81-A82:n A83:s ABC:n ABE-AC0:s AC1-AC8:n AC9-ACC:s ACD:n AE2-AE3:n AFA-B01:n B02-B03:s",
   "B3C:n B3E:s B3F:n B40:s B41-B44:n B47-B4C:s B4D-B56:n B57:s B62-B63:n B82:n BBE-BBF:s BC0:n",
   "BC1-BCC:s BCD:n BD7:s C00:n C01-C03:s C04:n C3C:n C3E-C40:n C41-C44:s C46-C56:n C62-C63:n",
   "C81:n C82-C83:s CBC:n CBE:s CBF:n CC0-CC4:s CC6:n CC7-CCB:s CCC-CCD:n CD5-CD6:s CE2-CE3:n",
   "CF3:s D00-D01:n D02-D03:s D3B-D3C:n D3E-D40:s D41-D44:n D46-D4C:s D4D:n D57:s D62-D63:n D81:n",
   "D82-D83:s DCA:n DCF-DD1:s DD2-DD6:n DD8-DDF:s DF2-DF3:s E31:n E34-E3A:n E47-E4E:n EB1:n",
   "EB4-EBC:n EC8-ECE:n F18-F19:n F35:n F37:n F39:n F3E-F3F:s F71-F7E:n F7F:s F80-F84:n F86-F87:n",
   "F8D-FBC:n FC6:n 102B-102C:s 102D-1030:n 1031:s 1032-1037:n 1038:s 1039-103A:n 103B-103C:s",
   "103D-103E:n 1056-1057:s 1058-1059:n 105E-1060:n 1062-1064:s 1067-106D:s 1071-1074:n 1082:n",
   "1083-1084:s 1085-1086:n 1087-108C:s 108D:n 108F:s 109A-109C:s 109D:n 135D-135F:n 1712-1714:n",
   "1715:s 1732-1733:n 1734:s 1752-1753:n 1772-1773:n 17B6:s 17B7-17BD:n 17BE-17C5:s 17C6:n",
   "17C7-17C8:s 17C9-17D3:n 17DD:n 1885-1886:n 18A9:n 1920-1922:n 1923-1926:s 1927-1928:n",
   "1929-1931:s 1932:n 1933-1938:s 1939-193B:n 1A17-1A18:n 1A19-1A1A:s 1A1B:n 1A55:s 1A56:n 1A57:s",
   "1A58-1A60:n 1A61:s 1A62:n 1A63-1A64:s 1A65-1A6C:n 1A6D-1A72:s 1A73-1A7F:n 1AB0-1B03:n 1B04:s",
   "1B34:n 1B35:s 1B36-1B3A:n 1B3B:s 1B3C:n 1B3D-1B41:s 1B42:n 1B43-1B44:s 1B6B-1B73:n 1B80-1B81:n",
   "1B82:s 1BA1:s 1BA2-1BA5:n 1BA6-1BA7:s 1BA8-1BA9:n 1BAA:s 1BAB-1BAD:n 1BE6:n 1BE7:s 1BE8-1BE9:n",
   "1BEA-1BEC:s 1BED:n 1BEE:s 1BEF-1BF1:n 1BF2-1BF3:s 1C24-1C2B:s 1C2C-1C33:n 1C34-1C35:s",
   "1C36-1C37:n 1CD0-1CD2:n 1CD4-1CE0:n 1CE1:s 1CE2-1CE8:n 1CED:n 1CF4:n 1CF7:s 1CF8-1CF9:n",
   "1DC0-1DFF:n 20D0-20F0:n 2CEF-2CF1:n 2D7F:n 2DE0-2DFF:n 302A-302D:n 302E-302F:s 3099-309A:n",
   "A66F-A672:n A674-A67D:n A69E-A69F:n A6F0-A6F1:n A802:n A806:n A80B:n A823-A824:s A825-A826:n",
   "A827:s A82C:n A880-A881:s A8B4-A8C3:s A8C4-A8C5:n A8E0-A8F1:n A8FF:n A926-A92D:n A947-A951:n",
   "A952-A953:s A980-A982:n A983:s A9B3:n A9B4-A9B5:s A9B6-A9B9:n A9BA-A9BB:s A9BC-A9BD:n",
   "A9BE-A9C0:s A9E5:n AA29-AA2E:n AA2F-AA30:s AA31-AA32:n AA33-AA34:s AA35-AA36:n AA43:n AA4C:n",
   "AA4D:s AA7B:s AA7C:n AA7D:s AAB0:n AAB2-AAB4:n AAB7-AAB8:n AABE-AABF:n AAC1:n AAEB:s",
   "AAEC-AAED:n AAEE-AAEF:s AAF5:s AAF6:n ABE3-ABE4:s ABE5:n ABE6-ABE7:s ABE8:n ABE9-ABEA:s ABEC:s",
   "ABED:n FB1E:n FE20-FE2F:n 101FD:n 102E0:n 10376-1037A:n 10A01-10A0F:n 10A38-10A3F:n",
   "10AE5-10AE6:n 10D24-10D27:n 10D69-10D6D:n 10EAB-10EAC:n 10EFA-10EFF:n 10F46-10F50:n",
   "10F82-10F85:n 11000:s 11001:n 11002:s 11038-11046:n 11070:n 11073-11074:n 1107F-11081:n",
   "11082:s 110B0-110B2:s 110B3-110B6:n 110B7-110B8:s 110B9-110BA:n 110C2:n 11100-11102:n",
   "11127-1112B:n 1112C:s 1112D-11134:n 11145-11146:s 11173:n 11180-11181:n 11182:s 111B3-111B5:s",
   "111B6-111BE:n 111BF-111C0:s 111C9-111CC:n 111CE:s 111CF:n 1122C-1122E:s 1122F-11231:n",
   "11232-11233:s 11234:n 11235:s 11236-11237:n 1123E:n 11241:n 112DF:n 112E0-112E2:s",
   "112E3-112EA:n 11300-11301:n 11302-11303:s 1133B-1133C:n 1133E-1133F:s 11340:n 11341-1134D:s",
   "11357:s 11362-11363:s 11366-11374:n 113B8-113BA:s 113BB-113C0:n 113C2-113CD:s 113CE:n 113CF:s",
   "113D0:n 113D2:n 113E1-113E2:n 11435-11437:s 11438-1143F:n 11440-11441:s 11442-11444:n 11445:s",
   "11446:n 1145E:n 114B0-114B2:s 114B3-114B8:n 114B9:s 114BA:n 114BB-114BE:s 114BF-114C0:n",
   "114C1:s 114C2-114C3:n 115AF-115B1:s 115B2-115B5:n 115B8-115BB:s 115BC-115BD:n 115BE:s",
   "115BF-115C0:n 115DC-115DD:n 11630-11632:s 11633-1163A:n 1163B-1163C:s 1163D:n 1163E:s",
   "1163F-11640:n 116AB:n 116AC:s 116AD:n 116AE-116AF:s 116B0-116B5:n 116B6:s 116B7:n 1171D:n",
   "1171E:s 1171F:n 11720-11721:s 11722-11725:n 11726:s 11727-1172B:n 1182C-1182E:s 1182F-11837:n",
   "11838:s 11839-1183A:n 11930-11938:s 1193B-1193C:n 1193D:s 1193E:n 11940:s 11942:s 11943:n",
   "119D1-119D3:s 119D4-119DB:n 119DC-119DF:s 119E0:n 119E4:s 11A01-11A0A:n 11A33-11A38:n 11A39:s",
   "11A3B-11A3E:n 11A47:n 11A51-11A56:n 11A57-11A58:s 11A59-11A5B:n 11A8A-11A96:n 11A97:s",
   "11A98-11A99:n 11B60:n 11B61:s 11B62-11B64:n 11B65:s 11B66:n 11B67:s 11C2F:s 11C30-11C3D:n",
   "11C3E:s 11C3F:n 11C92-11CA7:n 11CA9:s 11CAA-11CB0:n 11CB1:s 11CB2-11CB3:n 11CB4:s",
   "11CB5-11CB6:n 11D31-11D45:n 11D47:n 11D8A-11D8E:s 11D90-11D91:n 11D93-11D94:s 11D95:n 11D96:s",
   "11D97:n 11EF3-11EF4:n 11EF5-11EF6:s 11F00-11F01:n 11F03:s 11F34-11F35:s 11F36-11F3A:n",
   "11F3E-11F3F:s 11F40:n 11F41:s 11F42:n 11F5A:n 13440:n 13447-13455:n 1611E-16129:n",
   "1612A-1612C:s 1612D-1612F:n 16AF0-16AF4:n 16B30-16B36:n 16F4F:n 16F51-16F87:s 16F8F-16F92:n",
   "16FE4:n 16FF0-16FF1:s 1BC9D-1BC9E:n 1CF00-1CF46:n 1D165-1D166:s 1D167-1D169:n 1D16D-1D172:s",
   "1D17B-1D182:n 1D185-1D18B:n 1D1AA-1D1AD:n 1D242-1D244:n 1DA00-1DA36:n 1DA3B-1DA6C:n 1DA75:n",
   "1DA84:n 1DA9B-1DAAF:n 1E000-1E08F:n 1E130-1E136:n 1E2AE:n 1E2EC-1E2EF:n 1E4EC-1E4EF:n",
   "1E5EE-1E5EF:n 1E6E3:n 1E6E6:n 1E6EE-1E6EF:n 1E6F5:n 1E8D0-1E8D6:n 1E944-1E94A:n"]

/-- The table of the marks. -/
@[irreducible]
def marks : CodeTable MarkKind := .ofRows MarkKind.read? markRows

/-- Whether a character is a mark. -/
def isMark (c : Char) : Bool := (marks.value? c.toNat).isSome

/-- Whether a character is a mark that takes no room of its own. -/
def isNonspacingMark (c : Char) : Bool := marks.value? c.toNat = some .nonspacing

end HostBridge.Text
