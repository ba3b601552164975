/-
Ignorable characters: those with the Unicode property
Default_Ignorable_Code_Point, as version 17.0 of the standard assigns
it. Among them are the fillers of the Hangul script, which count as
letters and yet leave no mark. A quoted text writes them by their code
point.
-/
import Aula.Text.CharClass

namespace Aula.CharClass

/-- The characters that are not drawn where they are not supported. -/
def defaultIgnorable : CharClass where
  ranges :=
    [(0x00AD, 0x00AD), (0x034F, 0x034F), (0x061C, 0x061C), (0x115F, 0x1160),
     (0x17B4, 0x17B5), (0x180B, 0x180F), (0x200B, 0x200F), (0x202A, 0x202E),
     (0x2060, 0x206F), (0x3164, 0x3164), (0xFE00, 0xFE0F), (0xFEFF, 0xFEFF),
     (0xFFA0, 0xFFA0), (0xFFF0, 0xFFF8), (0x1BCA0, 0x1BCA3), (0x1D173, 0x1D17A),
     (0xE0000, 0xE0FFF)]

end Aula.CharClass
