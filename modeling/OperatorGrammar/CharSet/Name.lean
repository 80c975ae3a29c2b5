import OperatorGrammar.CharSet.Alphabetic
import OperatorGrammar.CharSet.Numeric

/-!
# Letters and numbers in names

The letters and numbers of which the names of groups are made. They follow Unicode 17, one version
later than the sets in patterns.
-/

namespace OperatorGrammar.CharSet

/-- What Unicode 17 adds to the property Alphabetic. -/
def laterAlphabetic : CharSet := ⟨[
    0x88F, 0x890, 0xC5C, 0xC5D, 0xCDC, 0xCDD, 0xA7CE, 0xA7D0, 0xA7D2, 0xA7D3, 0xA7D4, 0xA7D5,
    0xA7F1, 0xA7F2, 0x10940, 0x1095A, 0x10EC5, 0x10EC8, 0x10EFA, 0x10EFC, 0x11B60, 0x11B68,
    0x11DB0, 0x11DDC, 0x16EA0, 0x16EB9, 0x16EBB, 0x16ED4, 0x16FF2, 0x16FF7, 0x187F8, 0x18800,
    0x18D09, 0x18D1F, 0x18D80, 0x18DF3, 0x1E6C0, 0x1E6DF, 0x1E6E0, 0x1E6F6, 0x1E6FE, 0x1E700,
    0x2B73A, 0x2B740, 0x2CEA2, 0x2CEAE, 0x323B0, 0x3347A]⟩

/-- What Unicode 17 adds to the general category N. -/
def laterNumeric : CharSet := ⟨[0x11DE0, 0x11DEA, 0x16FF4, 0x16FF7]⟩

def nameLetter : CharSet := alphabetic ∪ laterAlphabetic

def nameLetterOrNumber : CharSet := nameLetter ∪ numeric ∪ laterNumeric

end OperatorGrammar.CharSet
