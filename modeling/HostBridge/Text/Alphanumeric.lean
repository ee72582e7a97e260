import HostBridge.Text.CodeTable

/-!
# Letters and numbers

The characters with the Unicode property Alphabetic, and those of the general categories of numbers.
A character with both, such as a Roman numeral, counts as alphabetic.
-/

namespace HostBridge.Text

/-- Why a character is alphanumeric. -/
inductive AlphanumericKind where
  | alphabetic
  | numeric
deriving DecidableEq, Repr

/-- The kind that a letter of the table stands for. -/
def AlphanumericKind.read? : List Char → Option AlphanumericKind
  | ['a'] => some .alphabetic
  | ['n'] => some .numeric
  | _ => none

/-- The alphanumeric characters; the letter n is for those that are numbers only. -/
def alphanumericRows : List String :=
  ["30-39:n 41-5A:a 61-7A:a AA:a B2-B3:n B5:a B9:n BA:a BC-BE:n C0-D6:a D8-F6:a F8-2C1:a 2C6-2D1:a",
   "2E0-2E4:a 2EC:a 2EE:a 345:a 363-374:a 376-377:a 37A-37D:a 37F:a 386:a 388-38A:a 38C:a",
   "38E-3A1:a 3A3-3F5:a 3F7-481:a 48A-52F:a 531-556:a 559:a 560-588:a 5B0-5BD:a 5BF:a 5C1-5C2:a",
   "5C4-5C5:a 5C7:a 5D0-5EA:a 5EF-5F2:a 610-61A:a 620-657:a 659-65F:a 660-669:n 66E-6D3:a",
   "6D5-6DC:a 6E1-6E8:a 6ED-6EF:a 6F0-6F9:n 6FA-6FC:a 6FF:a 710-73F:a 74D-7B1:a 7C0-7C9:n",
   "7CA-7EA:a 7F4-7F5:a 7FA:a 800-817:a 81A-82C:a 840-858:a 860-86A:a 870-887:a 889-88F:a 897:a",
   "8A0-8C9:a 8D4-8DF:a 8E3-8E9:a 8F0-93B:a 93D-94C:a 94E-950:a 955-963:a 966-96F:n 971-983:a",
   "985-98C:a 98F-990:a 993-9A8:a 9AA-9B0:a 9B2:a 9B6-9B9:a 9BD-9C4:a 9C7-9C8:a 9CB-9CC:a 9CE:a",
   "9D7:a 9DC-9DD:a 9DF-9E3:a 9E6-9EF:n 9F0-9F1:a 9F4-9F9:n 9FC:a A01-A03:a A05-A0A:a A0F-A10:a",
   "A13-A28:a A2A-A30:a A32-A33:a A35-A36:a A38-A39:a A3E-A42:a A47-A48:a A4B-A4C:a A51:a",
   "A59-A5C:a A5E:a A66-A6F:n A70-A75:a A81-A83:a A85-A8D:a A8F-A91:a A93-AA8:a AAA-AB0:a",
   "AB2-AB3:a AB5-AB9:a ABD-AC5:a AC7-AC9:a ACB-ACC:a AD0:a AE0-AE3:a AE6-AEF:n AF9-AFC:a",
   "B01-B03:a B05-B0C:a B0F-B10:a B13-B28:a B2A-B30:a B32-B33:a B35-B39:a B3D-B44:a B47-B48:a",
   "B4B-B4C:a B56-B57:a B5C-B5D:a B5F-B63:a B66-B6F:n B71:a B72-B77:n B82-B83:a B85-B8A:a",
   "B8E-B90:a B92-B95:a B99-B9A:a B9C:a B9E-B9F:a BA3-BA4:a BA8-BAA:a BAE-BB9:a BBE-BC2:a",
   "BC6-BC8:a BCA-BCC:a BD0:a BD7:a BE6-BF2:n C00-C0C:a C0E-C10:a C12-C28:a C2A-C39:a C3D-C44:a",
   "C46-C48:a C4A-C4C:a C55-C56:a C58-C5A:a C5C-C5D:a C60-C63:a C66-C6F:n C78-C7E:n C80-C83:a",
   "C85-C8C:a C8E-C90:a C92-CA8:a CAA-CB3:a CB5-CB9:a CBD-CC4:a CC6-CC8:a CCA-CCC:a CD5-CD6:a",
   "CDC-CDE:a CE0-CE3:a CE6-CEF:n CF1-CF3:a D00-D0C:a D0E-D10:a D12-D3A:a D3D-D44:a D46-D48:a",
   "D4A-D4C:a D4E:a D54-D57:a D58-D5E:n D5F-D63:a D66-D78:n D7A-D7F:a D81-D83:a D85-D96:a",
   "D9A-DB1:a DB3-DBB:a DBD:a DC0-DC6:a DCF-DD4:a DD6:a DD8-DDF:a DE6-DEF:n DF2-DF3:a E01-E3A:a",
   "E40-E46:a E4D:a E50-E59:n E81-E82:a E84:a E86-E8A:a E8C-EA3:a EA5:a EA7-EB9:a EBB-EBD:a",
   "EC0-EC4:a EC6:a ECD:a ED0-ED9:n EDC-EDF:a F00:a F20-F33:n F40-F47:a F49-F6C:a F71-F83:a",
   "F88-F97:a F99-FBC:a 1000-1036:a 1038:a 103B-103F:a 1040-1049:n 1050-108F:a 1090-1099:n",
   "109A-109D:a 10A0-10C5:a 10C7:a 10CD:a 10D0-10FA:a 10FC-1248:a 124A-124D:a 1250-1256:a 1258:a",
   "125A-125D:a 1260-1288:a 128A-128D:a 1290-12B0:a 12B2-12B5:a 12B8-12BE:a 12C0:a 12C2-12C5:a",
   "12C8-12D6:a 12D8-1310:a 1312-1315:a 1318-135A:a 1369-137C:n 1380-138F:a 13A0-13F5:a",
   "13F8-13FD:a 1401-166C:a 166F-167F:a 1681-169A:a 16A0-16EA:a 16EE-16F8:a 1700-1713:a",
   "171F-1733:a 1740-1753:a 1760-176C:a 176E-1770:a 1772-1773:a 1780-17B3:a 17B6-17C8:a 17D7:a",
   "17DC:a 17E0-17E9:n 17F0-17F9:n 1810-1819:n 1820-1878:a 1880-18AA:a 18B0-18F5:a 1900-191E:a",
   "1920-192B:a 1930-1938:a 1946-194F:n 1950-196D:a 1970-1974:a 1980-19AB:a 19B0-19C9:a",
   "19D0-19DA:n 1A00-1A1B:a 1A20-1A5E:a 1A61-1A74:a 1A80-1A89:n 1A90-1A99:n 1AA7:a 1ABF-1AC0:a",
   "1ACC-1ACE:a 1B00-1B33:a 1B35-1B43:a 1B45-1B4C:a 1B50-1B59:n 1B80-1BA9:a 1BAC-1BAF:a",
   "1BB0-1BB9:n 1BBA-1BE5:a 1BE7-1BF1:a 1C00-1C36:a 1C40-1C49:n 1C4D-1C4F:a 1C50-1C59:n",
   "1C5A-1C7D:a 1C80-1C8A:a 1C90-1CBA:a 1CBD-1CBF:a 1CE9-1CEC:a 1CEE-1CF3:a 1CF5-1CF6:a 1CFA:a",
   "1D00-1DBF:a 1DD3-1DF4:a 1E00-1F15:a 1F18-1F1D:a 1F20-1F45:a 1F48-1F4D:a 1F50-1F57:a 1F59:a",
   "1F5B:a 1F5D:a 1F5F-1F7D:a 1F80-1FB4:a 1FB6-1FBC:a 1FBE:a 1FC2-1FC4:a 1FC6-1FCC:a 1FD0-1FD3:a",
   "1FD6-1FDB:a 1FE0-1FEC:a 1FF2-1FF4:a 1FF6-1FFC:a 2070:n 2071:a 2074-2079:n 207F:a 2080-2089:n",
   "2090-209C:a 2102:a 2107:a 210A-2113:a 2115:a 2119-211D:a 2124:a 2126:a 2128:a 212A-212D:a",
   "212F-2139:a 213C-213F:a 2145-2149:a 214E:a 2150-215F:n 2160-2188:a 2189:n 2460-249B:n",
   "24B6-24E9:a 24EA-24FF:n 2776-2793:n 2C00-2CE4:a 2CEB-2CEE:a 2CF2-2CF3:a 2CFD:n 2D00-2D25:a",
   "2D27:a 2D2D:a 2D30-2D67:a 2D6F:a 2D80-2D96:a 2DA0-2DA6:a 2DA8-2DAE:a 2DB0-2DB6:a 2DB8-2DBE:a",
   "2DC0-2DC6:a 2DC8-2DCE:a 2DD0-2DD6:a 2DD8-2DDE:a 2DE0-2DFF:a 2E2F:a 3005-3007:a 3021-3029:a",
   "3031-3035:a 3038-303C:a 3041-3096:a 309D-309F:a 30A1-30FA:a 30FC-30FF:a 3105-312F:a",
   "3131-318E:a 3192-3195:n 31A0-31BF:a 31F0-31FF:a 3220-3229:n 3248-324F:n 3251-325F:n",
   "3280-3289:n 32B1-32BF:n 3400-4DBF:a 4E00-A48C:a A4D0-A4FD:a A500-A60C:a A610-A61F:a",
   "A620-A629:n A62A-A62B:a A640-A66E:a A674-A67B:a A67F-A6EF:a A717-A71F:a A722-A788:a",
   "A78B-A7DC:a A7F1-A805:a A807-A827:a A830-A835:n A840-A873:a A880-A8C3:a A8C5:a A8D0-A8D9:n",
   "A8F2-A8F7:a A8FB:a A8FD-A8FF:a A900-A909:n A90A-A92A:a A930-A952:a A960-A97C:a A980-A9B2:a",
   "A9B4-A9BF:a A9CF:a A9D0-A9D9:n A9E0-A9EF:a A9F0-A9F9:n A9FA-A9FE:a AA00-AA36:a AA40-AA4D:a",
   "AA50-AA59:n AA60-AA76:a AA7A-AABE:a AAC0:a AAC2:a AADB-AADD:a AAE0-AAEF:a AAF2-AAF5:a",
   "AB01-AB06:a AB09-AB0E:a AB11-AB16:a AB20-AB26:a AB28-AB2E:a AB30-AB5A:a AB5C-AB69:a",
   "AB70-ABEA:a ABF0-ABF9:n AC00-D7A3:a D7B0-D7C6:a D7CB-D7FB:a F900-FA6D:a FA70-FAD9:a",
   "FB00-FB06:a FB13-FB17:a FB1D-FB28:a FB2A-FB36:a FB38-FB3C:a FB3E:a FB40-FB41:a FB43-FB44:a",
   "FB46-FBB1:a FBD3-FD3D:a FD50-FD8F:a FD92-FDC7:a FDF0-FDFB:a FE70-FE74:a FE76-FEFC:a",
   "FF10-FF19:n FF21-FF3A:a FF41-FF5A:a FF66-FFBE:a FFC2-FFC7:a FFCA-FFCF:a FFD2-FFD7:a",
   "FFDA-FFDC:a 10000-1000B:a 1000D-10026:a 10028-1003A:a 1003C-1003D:a 1003F-1004D:a",
   "10050-1005D:a 10080-100FA:a 10107-10133:n 10140-10174:a 10175-10178:n 1018A-1018B:n",
   "10280-1029C:a 102A0-102D0:a 102E1-102FB:n 10300-1031F:a 10320-10323:n 1032D-1034A:a",
   "10350-1037A:a 10380-1039D:a 103A0-103C3:a 103C8-103CF:a 103D1-103D5:a 10400-1049D:a",
   "104A0-104A9:n 104B0-104D3:a 104D8-104FB:a 10500-10527:a 10530-10563:a 10570-1057A:a",
   "1057C-1058A:a 1058C-10592:a 10594-10595:a 10597-105A1:a 105A3-105B1:a 105B3-105B9:a",
   "105BB-105BC:a 105C0-105F3:a 10600-10736:a 10740-10755:a 10760-10767:a 10780-10785:a",
   "10787-107B0:a 107B2-107BA:a 10800-10805:a 10808:a 1080A-10835:a 10837-10838:a 1083C:a",
   "1083F-10855:a 10858-1085F:n 10860-10876:a 10879-1087F:n 10880-1089E:a 108A7-108AF:n",
   "108E0-108F2:a 108F4-108F5:a 108FB-108FF:n 10900-10915:a 10916-1091B:n 10920-10939:a",
   "10940-10959:a 10980-109B7:a 109BC-109BD:n 109BE-109BF:a 109C0-109CF:n 109D2-109FF:n",
   "10A00-10A03:a 10A05-10A06:a 10A0C-10A13:a 10A15-10A17:a 10A19-10A35:a 10A40-10A48:n",
   "10A60-10A7C:a 10A7D-10A7E:n 10A80-10A9C:a 10A9D-10A9F:n 10AC0-10AC7:a 10AC9-10AE4:a",
   "10AEB-10AEF:n 10B00-10B35:a 10B40-10B55:a 10B58-10B5F:n 10B60-10B72:a 10B78-10B7F:n",
   "10B80-10B91:a 10BA9-10BAF:n 10C00-10C48:a 10C80-10CB2:a 10CC0-10CF2:a 10CFA-10CFF:n",
   "10D00-10D27:a 10D30-10D39:n 10D40-10D49:n 10D4A-10D65:a 10D69:a 10D6F-10D85:a 10E60-10E7E:n",
   "10E80-10EA9:a 10EAB-10EAC:a 10EB0-10EB1:a 10EC2-10EC7:a 10EFA-10EFC:a 10F00-10F1C:a",
   "10F1D-10F26:n 10F27:a 10F30-10F45:a 10F51-10F54:n 10F70-10F81:a 10FB0-10FC4:a 10FC5-10FCB:n",
   "10FE0-10FF6:a 11000-11045:a 11052-1106F:n 11071-11075:a 11080-110B8:a 110C2:a 110D0-110E8:a",
   "110F0-110F9:n 11100-11132:a 11136-1113F:n 11144-11147:a 11150-11172:a 11176:a 11180-111BF:a",
   "111C1-111C4:a 111CE-111CF:a 111D0-111D9:n 111DA:a 111DC:a 111E1-111F4:n 11200-11211:a",
   "11213-11234:a 11237:a 1123E-11241:a 11280-11286:a 11288:a 1128A-1128D:a 1128F-1129D:a",
   "1129F-112A8:a 112B0-112E8:a 112F0-112F9:n 11300-11303:a 11305-1130C:a 1130F-11310:a",
   "11313-11328:a 1132A-11330:a 11332-11333:a 11335-11339:a 1133D-11344:a 11347-11348:a",
   "1134B-1134C:a 11350:a 11357:a 1135D-11363:a 11380-11389:a 1138B:a 1138E:a 11390-113B5:a",
   "113B7-113C0:a 113C2:a 113C5:a 113C7-113CA:a 113CC-113CD:a 113D1:a 113D3:a 11400-11441:a",
   "11443-11445:a 11447-1144A:a 11450-11459:n 1145F-11461:a 11480-114C1:a 114C4-114C5:a 114C7:a",
   "114D0-114D9:n 11580-115B5:a 115B8-115BE:a 115D8-115DD:a 11600-1163E:a 11640:a 11644:a",
   "11650-11659:n 11680-116B5:a 116B8:a 116C0-116C9:n 116D0-116E3:n 11700-1171A:a 1171D-1172A:a",
   "11730-1173B:n 11740-11746:a 11800-11838:a 118A0-118DF:a 118E0-118F2:n 118FF-11906:a 11909:a",
   "1190C-11913:a 11915-11916:a 11918-11935:a 11937-11938:a 1193B-1193C:a 1193F-11942:a",
   "11950-11959:n 119A0-119A7:a 119AA-119D7:a 119DA-119DF:a 119E1:a 119E3-119E4:a 11A00-11A32:a",
   "11A35-11A3E:a 11A50-11A97:a 11A9D:a 11AB0-11AF8:a 11B60-11B67:a 11BC0-11BE0:a 11BF0-11BF9:n",
   "11C00-11C08:a 11C0A-11C36:a 11C38-11C3E:a 11C40:a 11C50-11C6C:n 11C72-11C8F:a 11C92-11CA7:a",
   "11CA9-11CB6:a 11D00-11D06:a 11D08-11D09:a 11D0B-11D36:a 11D3A:a 11D3C-11D3D:a 11D3F-11D41:a",
   "11D43:a 11D46-11D47:a 11D50-11D59:n 11D60-11D65:a 11D67-11D68:a 11D6A-11D8E:a 11D90-11D91:a",
   "11D93-11D96:a 11D98:a 11DA0-11DA9:n 11DB0-11DDB:a 11DE0-11DE9:n 11EE0-11EF6:a 11F00-11F10:a",
   "11F12-11F3A:a 11F3E-11F40:a 11F50-11F59:n 11FB0:a 11FC0-11FD4:n 12000-12399:a 12400-1246E:a",
   "12480-12543:a 12F90-12FF0:a 13000-1342F:a 13441-13446:a 13460-143FA:a 14400-14646:a",
   "16100-1612E:a 16130-16139:n 16800-16A38:a 16A40-16A5E:a 16A60-16A69:n 16A70-16ABE:a",
   "16AC0-16AC9:n 16AD0-16AED:a 16B00-16B2F:a 16B40-16B43:a 16B50-16B59:n 16B5B-16B61:n",
   "16B63-16B77:a 16B7D-16B8F:a 16D40-16D6C:a 16D70-16D79:n 16E40-16E7F:a 16E80-16E96:n",
   "16EA0-16EB8:a 16EBB-16ED3:a 16F00-16F4A:a 16F4F-16F87:a 16F8F-16F9F:a 16FE0-16FE1:a 16FE3:a",
   "16FF0-16FF6:a 17000-18CD5:a 18CFF-18D1E:a 18D80-18DF2:a 1AFF0-1AFF3:a 1AFF5-1AFFB:a",
   "1AFFD-1AFFE:a 1B000-1B122:a 1B132:a 1B150-1B152:a 1B155:a 1B164-1B167:a 1B170-1B2FB:a",
   "1BC00-1BC6A:a 1BC70-1BC7C:a 1BC80-1BC88:a 1BC90-1BC99:a 1BC9E:a 1CCF0-1CCF9:n 1D2C0-1D2D3:n",
   "1D2E0-1D2F3:n 1D360-1D378:n 1D400-1D454:a 1D456-1D49C:a 1D49E-1D49F:a 1D4A2:a 1D4A5-1D4A6:a",
   "1D4A9-1D4AC:a 1D4AE-1D4B9:a 1D4BB:a 1D4BD-1D4C3:a 1D4C5-1D505:a 1D507-1D50A:a 1D50D-1D514:a",
   "1D516-1D51C:a 1D51E-1D539:a 1D53B-1D53E:a 1D540-1D544:a 1D546:a 1D54A-1D550:a 1D552-1D6A5:a",
   "1D6A8-1D6C0:a 1D6C2-1D6DA:a 1D6DC-1D6FA:a 1D6FC-1D714:a 1D716-1D734:a 1D736-1D74E:a",
   "1D750-1D76E:a 1D770-1D788:a 1D78A-1D7A8:a 1D7AA-1D7C2:a 1D7C4-1D7CB:a 1D7CE-1D7FF:n",
   "1DF00-1DF1E:a 1DF25-1DF2A:a 1E000-1E006:a 1E008-1E018:a 1E01B-1E021:a 1E023-1E024:a",
   "1E026-1E02A:a 1E030-1E06D:a 1E08F:a 1E100-1E12C:a 1E137-1E13D:a 1E140-1E149:n 1E14E:a",
   "1E290-1E2AD:a 1E2C0-1E2EB:a 1E2F0-1E2F9:n 1E4D0-1E4EB:a 1E4F0-1E4F9:n 1E5D0-1E5ED:a 1E5F0:a",
   "1E5F1-1E5FA:n 1E6C0-1E6DE:a 1E6E0-1E6F5:a 1E6FE-1E6FF:a 1E7E0-1E7E6:a 1E7E8-1E7EB:a",
   "1E7ED-1E7EE:a 1E7F0-1E7FE:a 1E800-1E8C4:a 1E8C7-1E8CF:n 1E900-1E943:a 1E947:a 1E94B:a",
   "1E950-1E959:n 1EC71-1ECAB:n 1ECAD-1ECAF:n 1ECB1-1ECB4:n 1ED01-1ED2D:n 1ED2F-1ED3D:n",
   "1EE00-1EE03:a 1EE05-1EE1F:a 1EE21-1EE22:a 1EE24:a 1EE27:a 1EE29-1EE32:a 1EE34-1EE37:a 1EE39:a",
   "1EE3B:a 1EE42:a 1EE47:a 1EE49:a 1EE4B:a 1EE4D-1EE4F:a 1EE51-1EE52:a 1EE54:a 1EE57:a 1EE59:a",
   "1EE5B:a 1EE5D:a 1EE5F:a 1EE61-1EE62:a 1EE64:a 1EE67-1EE6A:a 1EE6C-1EE72:a 1EE74-1EE77:a",
   "1EE79-1EE7C:a 1EE7E:a 1EE80-1EE89:a 1EE8B-1EE9B:a 1EEA1-1EEA3:a 1EEA5-1EEA9:a 1EEAB-1EEBB:a",
   "1F100-1F10C:n 1F130-1F149:a 1F150-1F169:a 1F170-1F189:a 1FBF0-1FBF9:n 20000-2A6DF:a",
   "2A700-2B81D:a 2B820-2CEAD:a 2CEB0-2EBE0:a 2EBF0-2EE5D:a 2F800-2FA1D:a 30000-3134A:a",
   "31350-33479:a"]

/-- The table of the alphanumeric characters. -/
@[irreducible]
def alphanumerics : CodeTable AlphanumericKind := .ofRows AlphanumericKind.read? alphanumericRows

/-- Whether a character is alphabetic. -/
def isAlphabetic (c : Char) : Bool := alphanumerics.value? c.toNat = some .alphabetic

/-- Whether a character is alphabetic or a number. -/
def isAlphanumeric (c : Char) : Bool := (alphanumerics.value? c.toNat).isSome

end HostBridge.Text
