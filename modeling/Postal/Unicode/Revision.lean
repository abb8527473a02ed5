import Postal.Unicode.Ranges

/-!
# Later versions

The tables of properties are those of version 16 of the Unicode character database, by which
patterns go. Other text goes by version 17, and the order of names by version 18. Listed here are
the code points that have a property in one of two versions but not in the other.
-/

namespace Postal.Unicode

def alphabeticChanges : RangeTable :=
  ⟨#[(0x88F, 0x88F), (0xC5C, 0xC5C), (0xCDC, 0xCDC), (0xA7CE, 0xA7CF), (0xA7D2, 0xA7D2),
     (0xA7D4, 0xA7D4), (0xA7F1, 0xA7F1), (0x10940, 0x10959), (0x10EC5, 0x10EC7), (0x10EFA, 0x10EFB),
     (0x11B60, 0x11B67), (0x11DB0, 0x11DDB), (0x16EA0, 0x16EB8), (0x16EBB, 0x16ED3),
     (0x16FF2, 0x16FF6), (0x187F8, 0x187FF), (0x18D09, 0x18D1E), (0x18D80, 0x18DF2),
     (0x1E6C0, 0x1E6DE), (0x1E6E0, 0x1E6F5), (0x1E6FE, 0x1E6FF), (0x2B73A, 0x2B73F),
     (0x2CEA2, 0x2CEAD), (0x323B0, 0x33479)]⟩

def numberChanges : RangeTable := RangeTable.ofText "11DE0-11DE9 16FF4-16FF6"

def casedChanges : RangeTable :=
  ⟨#[(0x295, 0x295), (0xA7CE, 0xA7CF), (0xA7D2, 0xA7D2), (0xA7D4, 0xA7D4), (0xA7F1, 0xA7F1),
     (0x16EA0, 0x16EB8), (0x16EBB, 0x16ED3)]⟩

def caseIgnorableChanges : RangeTable :=
  ⟨#[(0x1ACF, 0x1ADD), (0x1AE0, 0x1AEB), (0xA7F1, 0xA7F1), (0x10EC5, 0x10EC5), (0x10EFA, 0x10EFB),
     (0x11B60, 0x11B60), (0x11B62, 0x11B64), (0x11B66, 0x11B66), (0x11DD9, 0x11DD9),
     (0x16FF2, 0x16FF3), (0x1E6E3, 0x1E6E3), (0x1E6E6, 0x1E6E6), (0x1E6EE, 0x1E6EF),
     (0x1E6F5, 0x1E6F5), (0x1E6FF, 0x1E6FF)]⟩

def graphemeExtendChanges : RangeTable :=
  RangeTable.ofText "1ACF-1ADD 1AE0-1AEB 10EFA-10EFB 11B60 11B62-11B64 11B66 1E6E3 1E6E6
    1E6EE-1E6EF 1E6F5"

def otherChanges : RangeTable :=
  RangeTable.ofText "88F C5C CDC 1ACF-1ADD 1AE0-1AEB 20C1 2B96 A7CE-A7CF A7D2 A7D4 A7F1
    FBC3-FBD2 FD90-FD91 FDC8-FDCE 10940-10959 10EC5-10EC7 10ED0-10ED8 10EFA-10EFB 11B60-11B67
    11DB0-11DDB 11DE0-11DE9 16EA0-16EB8 16EBB-16ED3 16FF2-16FF6 187F8-187FF 18D09-18D1E
    18D80-18DF2 1CCFA-1CCFC 1CEBA-1CED0 1CEE0-1CEF0 1E6C0-1E6DE 1E6E0-1E6F5 1E6FE-1E6FF 1F6D8
    1F777-1F77A 1F8D0-1F8D8 1FA54-1FA57 1FA8A 1FA8E 1FAC8 1FACD 1FAEA 1FAEF 1FBFA 2B73A-2B73F
    2CEA2-2CEAD 323B0-33479"

def markChanges : RangeTable :=
  RangeTable.ofText "5C8 B53-B54 1ACF-1AEF 10EFA-10EFB 11B60-11B67 11DF0 1D127-1D128 1E6E3
    1E6E6 1E6EE-1E6EF 1E6F5"

end Postal.Unicode
