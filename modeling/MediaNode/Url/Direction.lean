import MediaNode.Text.Category

/-!
# Direction of writing in a domain

A domain that holds a character written from right to left has to look the same
wherever it is shown. Therefore each of its labels starts with a letter that sets
the direction, holds nothing of the other direction, and ends in a letter or a
digit. A label from right to left does not mix two kinds of digits.
-/
namespace MediaNode.Url

/-- How a character takes part in the direction of writing. -/
inductive Direction where
  | leftToRight
  | rightToLeft
  | europeanNumber
  | arabicNumber
  /-- Signs that take the direction of their neighbours. -/
  | neutral
  /-- Marks that take the direction of the character in front of them. -/
  | mark
deriving DecidableEq, Repr, Inhabited

namespace Direction

/-- Letters written from right to left. -/
def rightToLeftLetters : List Text.Span := Text.spans "
  5BE 5C0 5C3 5C6 5D0-5EA 5EF-5F4 608 60B 60D 61B 61D-64A 66D-66F 671-674 679-6D5 6E5-6E6 6EE-6EF
  6FA-70D 710 712-72F 74D-7A5 7B1 7C0-7EA 7F4-7F5 7FA 7FE-815 81A 824 828 830-83E 840-858 85E
  860-86A 870-88F 8A0-8C9 FBB2-FBC2 FE73 10800-10805 10808 1080A-10835 10837-10838 1083C
  1083F-10855 10857-1089E 108A7-108AF 108E0-108F2 108F4-108F5 108FB-1091B 10920-10939 1093F-10959
  10980-109B7 109BC-109CF 109D2-10A00 10A10-10A13 10A15-10A17 10A19-10A35 10A40-10A48 10A50-10A58
  10A60-10A9F 10AC0-10AE4 10AEB-10AF6 10B00-10B35 10B40-10B55 10B58-10B72 10B78-10B91 10B99-10B9C
  10BA9-10BAF 10C00-10C48 10CC0-10CF2 10CFA-10D23 10D4A-10D4F 10D6F-10D85 10D8E-10D8F 10E80-10EA9
  10EAD 10EB0-10EB1 10EC2-10EC7 10F00-10F27 10F30-10F45 10F51-10F59 10F70-10F81 10F86-10F89
  10FB0-10FCB 10FE0-10FF6 1E800-1E8C4 1E8C7-1E8CF 1E922-1E943 1E94B 1E950-1E959 1E95E-1E95F
  1EC71-1ECB4 1ED01-1ED3D"

/-- Digits that are written as European digits are. -/
def europeanDigits : List Text.Span := Text.spans "
  30-39 6F0-6F9 102E1-102FB"

/-- Digits that are written as Arabic digits are. -/
def arabicDigits : List Text.Span := Text.spans "
  660-669 66B-66C 10D30-10D39 10D40-10D49 10E60-10E7E"

/-- Signs without a direction. -/
def neutralSigns : List Text.Span := Text.spans "
  0-8 E-1B 21-2F 3A-40 5B-60 7B-7F A1-A7 A9 AB-AC AE B0-B1 B6-B7 BB BF D7 F7 2B9-2BA 2C2-2CF
  2D2-2D7 2DE-2DF 2E5-2ED 2EF-2FF 375 3F6 58A 58D-58F 606-607 609-60A 60C 60E-60F 66A 6DE 6E9
  7F6-7F9 9F2-9F3 9FB AF1 BF3-BFA C78-C7E E3F F3A-F3D 1390-1399 1400 169B-169C 17DB 17F0-17F9
  1800-180A 1940 1944-1945 19DE-19FF 200C-200D 2010 2012-2016 2018-2023 2027 2030-2032 2035
  2038-203B 203D 203F-2046 204A-2056 2058-205E 20A0-20A7 20A9-20C1 2104 2108 2114 2117-2118
  211E-211F 2123 2125 2127 2129 212E 213A 2141-2144 214A-214D 218A-218B 2190-222B 222E 2231-2328
  232B-2335 237B-2394 2396-2429 2440-244A 24EB-26AB 26AD-27FF 2900-2A0B 2A0D-2A73 2A77-2ADB
  2ADD-2B73 2B76-2BFF 2CE5-2CEA 2CF9-2CFF 2E00-2E5D 2E80-2E99 2E9B-2E9E 2EA0-2EF2 3001 3003-3004
  3008-3020 3030 3037 303D-303F 30A0 30FB 31C0-31E5 4DC0-4DFF A490-A4C6 A60D-A60F A673 A67E-A67F
  A700-A721 A788 A828-A82B A838-A839 A874-A877 AB6A-AB6B FBC3-FBD2 FD3E-FD4F FD90-FD91 FDC8-FDCF
  FDFD-FDFF FE45-FE46 10101 10140-1018C 10190-1019C 101A0 1091F 10B39-10B3F 10D6E 10ED0-10ED8
  11052-11065 11660-1166C 11FD5-11FF1 16FE2 1CC00-1CCD5 1CCFA-1CCFC 1CD00-1CEB3 1CEBA-1CED0
  1CEE0-1CEF0 1D1E9-1D1EA 1D200-1D241 1D245 1D300-1D356 1E2FF 1EEF0-1EEF1 1F000-1F02B 1F030-1F093
  1F0A0-1F0AE 1F0B1-1F0BF 1F0C1-1F0CF 1F0D1-1F0F5 1F10B-1F10F 1F12F 1F16D-1F16F 1F1AD 1F260-1F265
  1F300-1F6D8 1F6DC-1F6EC 1F6F0-1F6FC 1F700-1F7D9 1F7E0-1F7EB 1F7F0 1F800-1F80B 1F810-1F847
  1F850-1F859 1F860-1F887 1F890-1F8AD 1F8B0-1F8BB 1F8C0-1F8C1 1F8D0-1F8D8 1F900-1FA57 1FA60-1FA6D
  1FA70-1FA7C 1FA80-1FA8A 1FA8E-1FAC6 1FAC8 1FACD-1FADC 1FADF-1FAEA 1FAEF-1FAF8 1FB00-1FB92
  1FB94-1FBEF 1FBFA"

/-- Nonspacing marks that are written from left to right. -/
def leftToRightMarks : List Text.Span := Text.spans "CBF CC6 11A07-11A08 11C3F"

/-- The direction of a character. -/
def ofChar (c : Char) : Direction :=
  if Text.inSpans rightToLeftLetters c then .rightToLeft
  else if Text.inSpans europeanDigits c then .europeanNumber
  else if Text.inSpans arabicDigits c then .arabicNumber
  else if Text.inSpans neutralSigns c then .neutral
  else if Text.isNonspacing c && !Text.inSpans leftToRightMarks c then .mark
  else .leftToRight

/-- Whether a label with a character of this direction makes its domain one that is
written from right to left. -/
def turns (direction : Direction) : Bool := direction = .rightToLeft || direction = .arabicNumber

/-- Whether a label keeps to one direction. -/
def fits (label : List Direction) : Bool :=
  let last := (label.reverse.dropWhile (· = .mark)).head?
  match label.head? with
  | none => true
  | some .leftToRight =>
    (last = some .leftToRight || last = some .europeanNumber) && !label.any turns
  | some .rightToLeft =>
    last ≠ some .neutral && !label.contains .leftToRight &&
      !(label.contains .europeanNumber && label.contains .arabicNumber)
  | some _ => false

end Direction

/-- Whether labels may stand in one domain. -/
def directionsFit (labels : List (List Char)) : Bool :=
  let directed := labels.map fun label => label.map Direction.ofChar
  if directed.any (·.any Direction.turns) then directed.all Direction.fits else true

end MediaNode.Url
