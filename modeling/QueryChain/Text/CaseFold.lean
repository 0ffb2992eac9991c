/-!
# ASCII case folding

Keywords, dialect names and parameter names are compared without regard to the case of the letters
`A` to `Z`. No other letter is folded: `É` and `é` stay different names.
-/

namespace QueryChain.Text

/-- The text with `A` to `Z` replaced by `a` to `z` and all else left alone. -/
def fold (s : String) : String := String.ofList (s.toList.map Char.toLower)

/-- The two texts are equal once folded. -/
def sameFolded (s t : String) : Bool := fold s == fold t

theorem toList_fold (s : String) : (fold s).toList = s.toList.map Char.toLower := by
  simp [fold]

end QueryChain.Text
