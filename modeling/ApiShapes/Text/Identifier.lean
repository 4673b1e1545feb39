import ApiShapes.Text.Word

/-!
# Identifier characters

* `isIdentifierStart`, `isIdentifierPart` : the characters a TypeScript identifier starts and goes
  on with: the Unicode identifier classes, `$`, `_` and the two joiners.
-/

namespace ApiShapes.Text

/-- Alphabetic characters that are neither marks nor start an identifier. -/
def alphabeticSymbolRanges : CodeRanges := [
  (0x24B6, 0x24E9), (0x2E2F, 0x2E2F), (0x1F130, 0x1F149), (0x1F150, 0x1F169), (0x1F170, 0x1F189)]

/-- Characters that start an identifier without being letters: some symbols, and two marks. -/
def extraStartRanges : CodeRanges := [
  (0x1885, 0x1886), (0x2118, 0x2118), (0x212E, 0x212E), (0x309B, 0x309C)]

/-- Word characters that no identifier holds. -/
def foreignWordRanges : CodeRanges := [
  (0x488, 0x489), (0x1ABE, 0x1ABE), (0x20DD, 0x20E0), (0x20E2, 0x20E4), (0x24B6, 0x24E9),
  (0x2E2F, 0x2E2F), (0xA670, 0xA672), (0x1F130, 0x1F149), (0x1F150, 0x1F169), (0x1F170, 0x1F189)]

/-- Characters inside identifiers that are no word characters. -/
def extraPartRanges : CodeRanges := [
  (0xB7, 0xB7), (0x387, 0x387), (0x1369, 0x1371), (0x19DA, 0x19DA), (0x2118, 0x2118),
  (0x212E, 0x212E), (0x309B, 0x309C)]

def isIdentifierStart (c : Char) : Bool :=
  if c.toNat < 128 then c.isAlpha || c == '_' || c == '$'
  else extraStartRanges.holds c || alphabeticRanges.holds c &&
    !alphabeticMarkRanges.holds c && !alphabeticSymbolRanges.holds c

def isIdentifierPart (c : Char) : Bool :=
  if c.toNat < 128 then c.isAlphanum || c == '_' || c == '$'
  else extraPartRanges.holds c || isWordChar c && !foreignWordRanges.holds c

end ApiShapes.Text
