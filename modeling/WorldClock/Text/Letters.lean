/-!
# Letters

Comparison of texts without regard to upper and lower case. Only the letters of ASCII have a case
here.
-/

namespace WorldClock.Text

/-- Whether two texts differ at most in the case of letters of ASCII. -/
def sameLetters (a b : String) : Bool :=
  a.toList.map Char.toLower == b.toList.map Char.toLower

end WorldClock.Text
