import ImageStudio.Text.Table

/-!
# Text · BidiClass: the bidirectional class of a character

The bidirectional rule for domain names (RFC 5893) looks at each character's class:
left-to-right (`L`), right-to-left (`R`), Arabic letter (`AL`), European and Arabic digits
(`EN`, `AN`), their separators and terminators (`ES`, `CS`, `ET`), other neutrals (`ON`),
boundary neutrals (`BN`) and nonspacing marks (`NSM`). Every other class is `other` here.

The table gives the class from each listed code point up to the next; an unassigned code
point takes the class of the range before it, which does not matter because no domain
name may hold one.
-/

namespace ImageStudio.Text

/-- The bidirectional classes the domain-name rule distinguishes. -/
inductive BidiClass where
  | l | r | al | en | es | et | an | cs | nsm | bn | on | other
  deriving DecidableEq, Repr, Inhabited

namespace BidiClass

/-- Reads the name of a class. -/
def ofName : String → BidiClass
  | "L" => .l | "R" => .r | "AL" => .al | "EN" => .en | "ES" => .es | "ET" => .et
  | "AN" => .an | "CS" => .cs | "NSM" => .nsm | "BN" => .bn | "ON" => .on
  | _ => .other

/-- The classes by their first code point: entries `start:class`, separated by `;`. -/
def tableText : String :=
  String.join [
    "0:BN;9:X;E:BN;1C:X;21:ON;23:ET;26:ON;2B:ES;2C:CS;2D:ES;2E:CS;30:EN;3A:CS;3B:ON;41:L;5B:ON;61:L;7",
    "B:ON;7F:BN;85:X;86:BN;A0:CS;A1:ON;A2:ET;A6:ON;AA:L;AB:ON;AD:BN;AE:ON;B0:ET;B2:EN;B4:ON;B5:L;B6:O",
    "N;B9:EN;BA:L;BB:ON;C0:L;D7:ON;D8:L;F7:ON;F8:L;2B9:ON;2BB:L;2C2:ON;2D0:L;2D2:ON;2E0:L;2E5:ON;2EE:",
    "L;2EF:ON;300:NSM;370:L;374:ON;376:L;37E:ON;37F:L;384:ON;386:L;387:ON;388:L;3F6:ON;3F7:L;483:NSM;",
    "48A:L;58A:ON;58F:ET;591:NSM;5BE:R;5BF:NSM;5C0:R;5C1:NSM;5C3:R;5C4:NSM;5C6:R;5C7:NSM;5D0:R;600:AN",
    ";606:ON;608:AL;609:ET;60B:AL;60C:CS;60D:AL;60E:ON;610:NSM;61B:AL;64B:NSM;660:AN;66A:ET;66B:AN;66",
    "D:AL;670:NSM;671:AL;6D6:NSM;6DD:AN;6DE:ON;6DF:NSM;6E5:AL;6E7:NSM;6E9:ON;6EA:NSM;6EE:AL;6F0:EN;6F",
    "A:AL;711:NSM;712:AL;730:NSM;74D:AL;7A6:NSM;7B1:AL;7C0:R;7EB:NSM;7F4:R;7F6:ON;7FA:R;7FD:NSM;7FE:R",
    ";816:NSM;81A:R;81B:NSM;824:R;825:NSM;828:R;829:NSM;830:R;859:NSM;85E:R;860:AL;890:AN;898:NSM;8A0",
    ":AL;8CA:NSM;8E2:AN;8E3:NSM;903:L;93A:NSM;93B:L;93C:NSM;93D:L;941:NSM;949:L;94D:NSM;94E:L;951:NSM",
    ";958:L;962:NSM;964:L;981:NSM;982:L;9BC:NSM;9BD:L;9C1:NSM;9C7:L;9CD:NSM;9CE:L;9E2:NSM;9E6:L;9F2:E",
    "T;9F4:L;9FB:ET;9FC:L;9FE:NSM;A03:L;A3C:NSM;A3E:L;A41:NSM;A59:L;A70:NSM;A72:L;A75:NSM;A76:L;A81:N",
    "SM;A83:L;ABC:NSM;ABD:L;AC1:NSM;AC9:L;ACD:NSM;AD0:L;AE2:NSM;AE6:L;AF1:ET;AF9:L;AFA:NSM;B02:L;B3C:",
    "NSM;B3D:L;B3F:NSM;B40:L;B41:NSM;B47:L;B4D:NSM;B57:L;B62:NSM;B66:L;B82:NSM;B83:L;BC0:NSM;BC1:L;BC",
    "D:NSM;BD0:L;BF3:ON;BF9:ET;BFA:ON;C00:NSM;C01:L;C04:NSM;C05:L;C3C:NSM;C3D:L;C3E:NSM;C41:L;C46:NSM",
    ";C58:L;C62:NSM;C66:L;C78:ON;C7F:L;C81:NSM;C82:L;CBC:NSM;CBD:L;CCC:NSM;CD5:L;CE2:NSM;CE6:L;D00:NS",
    "M;D02:L;D3B:NSM;D3D:L;D41:NSM;D46:L;D4D:NSM;D4E:L;D62:NSM;D66:L;D81:NSM;D82:L;DCA:NSM;DCF:L;DD2:",
    "NSM;DD8:L;E31:NSM;E32:L;E34:NSM;E3F:ET;E40:L;E47:NSM;E4F:L;EB1:NSM;EB2:L;EB4:NSM;EBD:L;EC8:NSM;E",
    "D0:L;F18:NSM;F1A:L;F35:NSM;F36:L;F37:NSM;F38:L;F39:NSM;F3A:ON;F3E:L;F71:NSM;F7F:L;F80:NSM;F85:L;",
    "F86:NSM;F88:L;F8D:NSM;FBE:L;FC6:NSM;FC7:L;102D:NSM;1031:L;1032:NSM;1038:L;1039:NSM;103B:L;103D:N",
    "SM;103F:L;1058:NSM;105A:L;105E:NSM;1061:L;1071:NSM;1075:L;1082:NSM;1083:L;1085:NSM;1087:L;108D:N",
    "SM;108E:L;109D:NSM;109E:L;135D:NSM;1360:L;1390:ON;13A0:L;1400:ON;1401:L;1680:X;1681:L;169B:ON;16",
    "A0:L;1712:NSM;1715:L;1732:NSM;1734:L;1752:NSM;1760:L;1772:NSM;1780:L;17B4:NSM;17B6:L;17B7:NSM;17",
    "BE:L;17C6:NSM;17C7:L;17C9:NSM;17D4:L;17DB:ET;17DC:L;17DD:NSM;17E0:L;17F0:ON;180B:NSM;180E:BN;180",
    "F:NSM;1810:L;1885:NSM;1887:L;18A9:NSM;18AA:L;1920:NSM;1923:L;1927:NSM;1929:L;1932:NSM;1933:L;193",
    "9:NSM;1940:ON;1946:L;19DE:ON;1A00:L;1A17:NSM;1A19:L;1A1B:NSM;1A1E:L;1A56:NSM;1A57:L;1A58:NSM;1A6",
    "1:L;1A62:NSM;1A63:L;1A65:NSM;1A6D:L;1A73:NSM;1A80:L;1AB0:NSM;1B04:L;1B34:NSM;1B35:L;1B36:NSM;1B3",
    "B:L;1B3C:NSM;1B3D:L;1B42:NSM;1B43:L;1B6B:NSM;1B74:L;1B80:NSM;1B82:L;1BA2:NSM;1BA6:L;1BA8:NSM;1BA",
    "A:L;1BAB:NSM;1BAE:L;1BE6:NSM;1BE7:L;1BE8:NSM;1BEA:L;1BED:NSM;1BEE:L;1BEF:NSM;1BF2:L;1C2C:NSM;1C3",
    "4:L;1C36:NSM;1C3B:L;1CD0:NSM;1CD3:L;1CD4:NSM;1CE1:L;1CE2:NSM;1CE9:L;1CED:NSM;1CEE:L;1CF4:NSM;1CF",
    "5:L;1CF8:NSM;1CFA:L;1DC0:NSM;1E00:L;1FBD:ON;1FBE:L;1FBF:ON;1FC2:L;1FCD:ON;1FD0:L;1FDD:ON;1FE0:L;",
    "1FED:ON;1FF2:L;1FFD:ON;2000:X;200B:BN;200E:L;200F:R;2010:ON;2028:X;202F:CS;2030:ET;2035:ON;2044:",
    "CS;2045:ON;205F:X;2060:BN;2066:X;206A:BN;2070:EN;2071:L;2074:EN;207A:ES;207C:ON;207F:L;2080:EN;2",
    "08A:ES;208C:ON;2090:L;20A0:ET;20D0:NSM;2100:ON;2102:L;2103:ON;2107:L;2108:ON;210A:L;2114:ON;2115",
    ":L;2116:ON;2119:L;211E:ON;2124:L;2125:ON;2126:L;2127:ON;2128:L;2129:ON;212A:L;212E:ET;212F:L;213",
    "A:ON;213C:L;2140:ON;2145:L;214A:ON;214E:L;2150:ON;2160:L;2189:ON;2212:ES;2213:ET;2214:ON;2336:L;",
    "237B:ON;2395:L;2396:ON;2488:EN;249C:L;24EA:ON;26AC:L;26AD:ON;2800:L;2900:ON;2C00:L;2CE5:ON;2CEB:",
    "L;2CEF:NSM;2CF2:L;2CF9:ON;2D00:L;2D7F:NSM;2D80:L;2DE0:NSM;2E00:ON;3000:X;3001:ON;3005:L;3008:ON;",
    "3021:L;302A:NSM;302E:L;3030:ON;3031:L;3036:ON;3038:L;303D:ON;3041:L;3099:NSM;309B:ON;309D:L;30A0",
    ":ON;30A1:L;30FB:ON;30FC:L;31C0:ON;31F0:L;321D:ON;3220:L;3250:ON;3260:L;327C:ON;327F:L;32B1:ON;32",
    "C0:L;32CC:ON;32D0:L;3377:ON;337B:L;33DE:ON;33E0:L;33FF:ON;3400:L;4DC0:ON;4E00:L;A490:ON;A4D0:L;A",
    "60D:ON;A610:L;A66F:NSM;A673:ON;A674:NSM;A67E:ON;A680:L;A69E:NSM;A6A0:L;A6F0:NSM;A6F2:L;A700:ON;A",
    "722:L;A788:ON;A789:L;A802:NSM;A803:L;A806:NSM;A807:L;A80B:NSM;A80C:L;A825:NSM;A827:L;A828:ON;A82",
    "C:NSM;A830:L;A838:ET;A840:L;A874:ON;A880:L;A8C4:NSM;A8CE:L;A8E0:NSM;A8F2:L;A8FF:NSM;A900:L;A926:",
    "NSM;A92E:L;A947:NSM;A952:L;A980:NSM;A983:L;A9B3:NSM;A9B4:L;A9B6:NSM;A9BA:L;A9BC:NSM;A9BE:L;A9E5:",
    "NSM;A9E6:L;AA29:NSM;AA2F:L;AA31:NSM;AA33:L;AA35:NSM;AA40:L;AA43:NSM;AA44:L;AA4C:NSM;AA4D:L;AA7C:",
    "NSM;AA7D:L;AAB0:NSM;AAB1:L;AAB2:NSM;AAB5:L;AAB7:NSM;AAB9:L;AABE:NSM;AAC0:L;AAC1:NSM;AAC2:L;AAEC:",
    "NSM;AAEE:L;AAF6:NSM;AB01:L;AB6A:ON;AB70:L;ABE5:NSM;ABE6:L;ABE8:NSM;ABE9:L;ABED:NSM;ABF0:L;FB1D:R",
    ";FB1E:NSM;FB1F:R;FB29:ES;FB2A:R;FB50:AL;FD3E:ON;FD50:AL;FDCF:ON;FDF0:AL;FDFD:ON;FE00:NSM;FE10:ON",
    ";FE20:NSM;FE30:ON;FE50:CS;FE51:ON;FE52:CS;FE54:ON;FE55:CS;FE56:ON;FE5F:ET;FE60:ON;FE62:ES;FE64:O",
    "N;FE69:ET;FE6B:ON;FE70:AL;FEFF:BN;FF01:ON;FF03:ET;FF06:ON;FF0B:ES;FF0C:CS;FF0D:ES;FF0E:CS;FF10:E",
    "N;FF1A:CS;FF1B:ON;FF21:L;FF3B:ON;FF41:L;FF5B:ON;FF66:L;FFE0:ET;FFE2:ON;FFE5:ET;FFE8:ON;10000:L;1",
    "0101:ON;10102:L;10140:ON;1018D:L;10190:ON;101D0:L;101FD:NSM;10280:L;102E0:NSM;102E1:EN;10300:L;1",
    "0376:NSM;10380:L;10800:R;1091F:ON;10920:R;10A01:NSM;10A10:R;10A38:NSM;10A40:R;10AE5:NSM;10AEB:R;",
    "10B39:ON;10B40:R;10D00:AL;10D24:NSM;10D30:AN;10E80:R;10EAB:NSM;10EAD:R;10F30:AL;10F46:NSM;10F51:",
    "AL;10F70:R;10F82:NSM;10F86:R;11000:L;11001:NSM;11002:L;11038:NSM;11047:L;11052:ON;11066:L;11070:",
    "NSM;11071:L;11073:NSM;11075:L;1107F:NSM;11082:L;110B3:NSM;110B7:L;110B9:NSM;110BB:L;110C2:NSM;11",
    "0CD:L;11100:NSM;11103:L;11127:NSM;1112C:L;1112D:NSM;11136:L;11173:NSM;11174:L;11180:NSM;11182:L;",
    "111B6:NSM;111BF:L;111C9:NSM;111CD:L;111CF:NSM;111D0:L;1122F:NSM;11232:L;11234:NSM;11235:L;11236:",
    "NSM;11238:L;1123E:NSM;11280:L;112DF:NSM;112E0:L;112E3:NSM;112F0:L;11300:NSM;11302:L;1133B:NSM;11",
    "33D:L;11340:NSM;11341:L;11366:NSM;11400:L;11438:NSM;11440:L;11442:NSM;11445:L;11446:NSM;11447:L;",
    "1145E:NSM;1145F:L;114B3:NSM;114B9:L;114BA:NSM;114BB:L;114BF:NSM;114C1:L;114C2:NSM;114C4:L;115B2:",
    "NSM;115B8:L;115BC:NSM;115BE:L;115BF:NSM;115C1:L;115DC:NSM;11600:L;11633:NSM;1163B:L;1163D:NSM;11",
    "63E:L;1163F:NSM;11641:L;11660:ON;11680:L;116AB:NSM;116AC:L;116AD:NSM;116AE:L;116B0:NSM;116B6:L;1",
    "16B7:NSM;116B8:L;1171D:NSM;11720:L;11722:NSM;11726:L;11727:NSM;11730:L;1182F:NSM;11838:L;11839:N",
    "SM;1183B:L;1193B:NSM;1193D:L;1193E:NSM;1193F:L;11943:NSM;11944:L;119D4:NSM;119DC:L;119E0:NSM;119",
    "E1:L;11A01:NSM;11A07:L;11A09:NSM;11A0B:L;11A33:NSM;11A39:L;11A3B:NSM;11A3F:L;11A47:NSM;11A50:L;1",
    "1A51:NSM;11A57:L;11A59:NSM;11A5C:L;11A8A:NSM;11A97:L;11A98:NSM;11A9A:L;11C30:NSM;11C3E:L;11C92:N",
    "SM;11CA9:L;11CAA:NSM;11CB1:L;11CB2:NSM;11CB4:L;11CB5:NSM;11D00:L;11D31:NSM;11D46:L;11D47:NSM;11D",
    "50:L;11D90:NSM;11D93:L;11D95:NSM;11D96:L;11D97:NSM;11D98:L;11EF3:NSM;11EF5:L;11FD5:ON;11FDD:ET;1",
    "1FE1:ON;11FFF:L;16AF0:NSM;16AF5:L;16B30:NSM;16B37:L;16F4F:NSM;16F50:L;16F8F:NSM;16F93:L;16FE2:ON",
    ";16FE3:L;16FE4:NSM;16FF0:L;1BC9D:NSM;1BC9F:L;1BCA0:BN;1CF00:NSM;1CF50:L;1D167:NSM;1D16A:L;1D173:",
    "BN;1D17B:NSM;1D183:L;1D185:NSM;1D18C:L;1D1AA:NSM;1D1AE:L;1D1E9:ON;1D242:NSM;1D245:ON;1D2E0:L;1D3",
    "00:ON;1D360:L;1D6DB:ON;1D6DC:L;1D715:ON;1D716:L;1D74F:ON;1D750:L;1D789:ON;1D78A:L;1D7C3:ON;1D7C4",
    ":L;1D7CE:EN;1D800:L;1DA00:NSM;1DA37:L;1DA3B:NSM;1DA6D:L;1DA75:NSM;1DA76:L;1DA84:NSM;1DA85:L;1DA9",
    "B:NSM;1DF00:L;1E000:NSM;1E100:L;1E130:NSM;1E137:L;1E2AE:NSM;1E2C0:L;1E2EC:NSM;1E2F0:L;1E2FF:ET;1",
    "E7E0:L;1E800:R;1E8D0:NSM;1E900:R;1E944:NSM;1E94B:R;1EC71:AL;1EEF0:ON;1F100:EN;1F10B:ON;1F110:L;1",
    "F12F:ON;1F130:L;1F16A:ON;1F170:L;1F1AD:ON;1F1E6:L;1F260:ON;1FBF0:EN;20000:L;E0001:BN;E0100:NSM;F",
    "0000:L"]

/-- Reads one entry: a hexadecimal code point, a colon and a class name. -/
def readEntry (e : String) : Option (Nat × BidiClass) :=
  match e.splitOn ":" with
  | [start, name] => (Table.readHex start).map fun n => (n, ofName name)
  | _ => none

/-- The table, sorted by first code point. -/
def table : Array (Nat × BidiClass) :=
  ((tableText.splitOn ";").filterMap readEntry).toArray

end BidiClass

/-- The bidirectional class of a character. -/
def bidiClass (c : Char) : BidiClass :=
  match Table.entryAt BidiClass.table (·.1) c.toNat with
  | some (_, k) => k
  | none => .other

end ImageStudio.Text
