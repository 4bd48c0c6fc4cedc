import Switchboard.Unicode.CharSet

/-! Properties of ideographs, of their parts, and of the operators that describe them. -/
namespace Switchboard.Unicode

def unifiedIdeograph : CharSet := .read
  "3400-4DBF 4E00-9FFF FA0E-FA0F FA11 FA13-FA14 FA1F FA21 FA23-FA24 FA27-FA29 20000-2A6DF
   2A700-2B739 2B740-2B81D 2B820-2CEA1 2CEB0-2EBE0 2EBF0-2EE5D 30000-3134A 31350-323AF"

def ideographic : CharSet :=
  unifiedIdeograph ∪
    .read
      "3006-3007 3021-3029 3038-303A F900-FA0D FA10 FA12 FA15-FA1E FA20 FA22 FA25-FA26 FA2A-FA6D
       FA70-FAD9 16FE4 17000-187F7 18800-18CD5 18CFF-18D08 1B170-1B2FB 2F800-2FA1D"

def radical : CharSet := .read
  "2E80-2E99 2E9B-2EF3 2F00-2FD5"

/-- The operators that describe an ideograph by one other, by two, and by three. -/
def unaryDescription : CharSet := .read
  "2FFE-2FFF"

def binaryDescription : CharSet := .read
  "2FF0-2FF1 2FF4-2FFD 31EF"

def ternaryDescription : CharSet := .read
  "2FF2-2FF3"

end Switchboard.Unicode
