import Stencil.Text.Category
import Stencil.Text.Trait

/-!
Alphabetic characters and numbers, as they are told apart in names.  Names follow a newer edition of
Unicode than the tables of the general categories, with some characters more.
-/

namespace Stencil.Text

/-- Alphabetic characters that Unicode 17 added. -/
def newAlphabetic : String :=
  "88F C5C CDC A7CE-A7CF A7D2 A7D4 A7F1 10940-10959 10EC5-10EC7 10EFA-10EFB 11B60-11B67
  11DB0-11DDB 16EA0-16EB8 16EBB-16ED3 16FF2-16FF6 187F8-187FF 18D09-18D1E 18D80-18DF2
  1E6C0-1E6DE 1E6E0-1E6F5 1E6FE-1E6FF 2B73A-2B73F 2CEA2-2CEAD 323B0-33479"

/-- Numbers that Unicode 17 added. -/
def newNumbers : String := "11DE0-11DE9 16FF4-16FF6"

/-- The alphabetic characters. -/
def alphabeticRuns : List Run :=
  (Category.letterNumber :: Category.letters).flatMap Category.runs
    ++ runsOf Trait.otherAlphabetic ++ runsOf newAlphabetic

/-- The character is alphabetic. -/
def isAlphabetic (c : Char) : Bool := inRuns alphabeticRuns c.toNat

/-- The numbers. -/
def numberRuns : List Run := Category.numbers.flatMap Category.runs ++ runsOf newNumbers

/-- The character is alphabetic or a number. -/
def isAlphanumeric (c : Char) : Bool := isAlphabetic c || inRuns numberRuns c.toNat

end Stencil.Text
