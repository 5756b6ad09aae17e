import SearchCompiler.Text.Extending
import SearchCompiler.Text.Unassigned

/-!
Characters that do not show by themselves: controls, separators other than the space, fillers, marks
on other characters, and code points that are private or without a character.
-/

namespace SearchCompiler.Text

def controlRanges : List (Nat × Nat) := [
    (0x0000, 0x001F), (0x007F, 0x009F), (0x00AD, 0x00AD), (0x0600, 0x0605), (0x061C, 0x061C),
    (0x06DD, 0x06DD), (0x070F, 0x070F), (0x0890, 0x0891), (0x08E2, 0x08E2), (0x180E, 0x180E),
    (0x200B, 0x200F), (0x202A, 0x202E), (0x2060, 0x2064), (0x2066, 0x206F), (0xFEFF, 0xFEFF),
    (0xFFF9, 0xFFFB), (0x110BD, 0x110BD), (0x110CD, 0x110CD), (0x13430, 0x1343F),
    (0x1BCA0, 0x1BCA3), (0x1D173, 0x1D17A), (0xE0001, 0xE0001), (0xE0020, 0xE007F)]

def separatorRanges : List (Nat × Nat) := [
    (0x00A0, 0x00A0), (0x1680, 0x1680), (0x2000, 0x200A), (0x2028, 0x2029), (0x202F, 0x202F),
    (0x205F, 0x205F), (0x3000, 0x3000)]

def fillerRanges : List (Nat × Nat) := [
    (0x115F, 0x1160), (0x3164, 0x3164), (0xFFA0, 0xFFA0)]

def privateRanges : List (Nat × Nat) := [
    (0xE000, 0xF8FF), (0xF0000, 0xFFFFD), (0x100000, 0x10FFFD)]

def isIn (ranges : List (Nat × Nat)) (c : Char) : Bool :=
  ranges.any fun r => r.1 ≤ c.toNat && c.toNat ≤ r.2

def isHidden (c : Char) : Bool :=
  isIn controlRanges c || isIn separatorRanges c || isIn fillerRanges c || isIn privateRanges c ||
    isIn extendingRanges c || isIn unassignedRanges c

end SearchCompiler.Text
