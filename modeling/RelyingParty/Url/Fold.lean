import RelyingParty.Unicode.CodeTable
import RelyingParty.Url.Fold.Refused
import RelyingParty.Url.Fold.Spelled

set_option autoImplicit false

namespace RelyingParty.Url.Fold

open Unicode

/-- Spans that move as a whole, with the code that their first character moves to. -/
def everyCode : CodeTable Nat := .ofLines
  ["41-5A=61 C0-D6=E0 D8-DE=F8 388-38A=3AD 391-3A1=3B1 3A3-3AB=3C3 3FD-3FF=37B 400-40F=450",
    "410-42F=430 531-556=561 10A0-10C5=2D00 13F8-13FD=13F0 1C90-1CBA=10D0 1CBD-1CBF=10FD",
    "1D33-1D3A=67 1D5D-1D5F=3B2 1DA4-1DA6=268 1DAE-1DB1=272 1DBC-1DBE=290 1F08-1F0F=1F00",
    "1F18-1F1D=1F10 1F28-1F2F=1F20 1F38-1F3F=1F30 1F48-1F4D=1F40 1F68-1F6F=1F60 2074-2079=34",
    "2080-2089=30 2096-2099=6B 2119-211B=70 2135-2138=5D0 2460-2468=31 24B6-24CF=61 24D0-24E9=61",
    "2C00-2C2F=2C30 3137-3139=1103 313A-313F=11B0 3141-3143=1106 3145-314E=1109 314F-3163=1161",
    "3178-317C=112B 3184-3186=1157 3263-3265=1105 3269-326D=110E 32E4-32E9=30CA 32EE-32F2=30DE",
    "32F5-32FA=30E8 32FB-32FE=30EF AB70-ABBF=13A0 FB24-FB26=5DB FE41-FE44=300C FF01-FF20=21",
    "FF21-FF3A=61 FF3B-FF5E=5B FF85-FF8A=30CA FF8F-FF93=30DE FF96-FF9B=30E8 FFA7-FFA9=1103",
    "FFAA-FFAF=11B0 FFB1-FFB3=1106 FFB5-FFBE=1109 FFC2-FFC7=1161 FFCA-FFCF=1167 FFD2-FFD7=116D",
    "FFDA-FFDC=1173 FFE9-FFEC=2190 10400-10427=10428 104B0-104D3=104D8 10570-1057A=10597",
    "1057C-1058A=105A3 1058C-10592=105B3 107B6-107B8=1C0 10C80-10CB2=10CC0 10D50-10D65=10D70",
    "118A0-118BF=118C0 16E40-16E5F=16E60 16EA0-16EB8=16EBB 1CCD6-1CCEF=61 1CCF0-1CCF9=30",
    "1D400-1D419=61 1D41A-1D433=61 1D434-1D44D=61 1D44E-1D454=61 1D456-1D467=69 1D468-1D481=61",
    "1D482-1D49B=61 1D4A9-1D4AC=6E 1D4AE-1D4B5=73 1D4B6-1D4B9=61 1D4BD-1D4C3=68 1D4C5-1D4CF=70",
    "1D4D0-1D4E9=61 1D4EA-1D503=61 1D507-1D50A=64 1D50D-1D514=6A 1D516-1D51C=73 1D51E-1D537=61",
    "1D53B-1D53E=64 1D540-1D544=69 1D54A-1D550=73 1D552-1D56B=61 1D56C-1D585=61 1D586-1D59F=61",
    "1D5A0-1D5B9=61 1D5BA-1D5D3=61 1D5D4-1D5ED=61 1D5EE-1D607=61 1D608-1D621=61 1D622-1D63B=61",
    "1D63C-1D655=61 1D656-1D66F=61 1D670-1D689=61 1D68A-1D6A3=61 1D6A8-1D6B8=3B1 1D6BA-1D6C0=3C3",
    "1D6C2-1D6D2=3B1 1D6D4-1D6DA=3C3 1D6E2-1D6F2=3B1 1D6F4-1D6FA=3C3 1D6FC-1D70C=3B1",
    "1D70E-1D714=3C3 1D71C-1D72C=3B1 1D72E-1D734=3C3 1D736-1D746=3B1 1D748-1D74E=3C3",
    "1D756-1D766=3B1 1D768-1D76E=3C3 1D770-1D780=3B1 1D782-1D788=3C3 1D790-1D7A0=3B1",
    "1D7A2-1D7A8=3C3 1D7AA-1D7BA=3B1 1D7BC-1D7C2=3C3 1D7CE-1D7D7=30 1D7D8-1D7E1=30 1D7E2-1D7EB=30",
    "1D7EC-1D7F5=30 1D7F6-1D7FF=30 1E030-1E038=430 1E039-1E03B=43A 1E03C-1E046=43E 1E051-1E059=430",
    "1E05F-1E064=443 1E900-1E921=1E922 1EE0A-1EE0D=643 1EE2A-1EE2D=643 1EE8B-1EE8D=644",
    "1EEAB-1EEAD=644 1F130-1F149=61 1FBF0-1FBF9=30"]

/-- Spans of which every second character moves, the first to the code that is given. -/
def everySecond : CodeTable Nat := .ofLines
  ["100-12E=101 139-13D=13A 141-147=142 14A-176=14B 179-17D=17A 1A0-1A4=1A1 1CD-1DB=1CE",
    "1DE-1EE=1DF 1F8-21E=1F9 222-232=223 246-24E=247 3D8-3EE=3D9 460-480=461 48A-4BE=48B",
    "4C1-4CD=4C2 4D0-52E=4D1 1E00-1E94=1E01 1EA0-1EFE=1EA1 1F59-1F5F=1F51 2C67-2C6B=2C68",
    "2C80-2CE2=2C81 A640-A66C=A641 A680-A69A=A681 A722-A72E=A723 A732-A76E=A733 A77E-A786=A77F",
    "A796-A7A8=A797 A7B4-A7C2=A7B5 A7CC-A7DA=A7CD"]

def shifted? (code : Nat) : Option Nat :=
  match everyCode.find? code with
  | some span => some (span.value + (code - span.first))
  | none =>
    match everySecond.find? code with
    | some span =>
      if (code - span.first) % 2 = 0 then some (span.value + (code - span.first)) else none
    | none => none

def character? (c : Char) : Option (List Char) :=
  if refused.has c then none
  else if dropped.has c then some []
  else
    match shifted? c.toNat with
    | some code => some [Char.ofNat code]
    | none => some ((spelled? c).getD [c])

def isFolded (c : Char) : Bool := character? c == some [c]

def text? (text : List Char) : Option (List Char) := (text.mapM character?).map List.flatten

end RelyingParty.Url.Fold
