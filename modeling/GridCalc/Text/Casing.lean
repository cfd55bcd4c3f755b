import GridCalc.Text.Casing.Table

/-!
# Upper and lower case

* `upper` maps each character by itself, so `upper_append` holds; a character may become up to three.
* `lower` does the same but for the capital sigma, which becomes a final sigma at the end of a word.
-/

namespace GridCalc.Text

/-- The image of a code point under the first run that covers it. -/
def runImage? (runs : List (Nat × Nat × Nat × Nat)) (n : Nat) : Option Nat :=
  runs.findSome? fun (first, last, step, image) =>
    if first ≤ n ∧ n ≤ last ∧ (n - first) % step = 0 then some (image + (n - first)) else none

/-- The image of a character beyond ASCII: its sequence, its run, or itself. -/
def caseImage (sequences : List (Nat × List Nat)) (runs : List (Nat × Nat × Nat × Nat)) (c : Char) : List Char :=
  match sequences.lookup c.toNat with
  | some image => image.map Char.ofNat
  | none => match runImage? runs c.toNat with
    | some n => [Char.ofNat n]
    | none => [c]

def upperChar (c : Char) : List Char :=
  if c.toNat < 128 then [c.toUpper] else caseImage upperSequences upperRuns c

/-- The text in upper case. -/
def upper (s : List Char) : List Char := s.flatMap upperChar

@[simp] theorem upper_nil : upper [] = [] := rfl

@[simp] theorem upper_append (s t : List Char) : upper (s ++ t) = upper s ++ upper t := by
  simp [upper]

def lowerChar (c : Char) : List Char :=
  if c.toNat < 128 then [c.toLower] else caseImage lowerSequences lowerRuns c

/-! ## The final sigma -/

/-- The first character that is not passed over has a case. -/
def casedFirst : List Char → Bool
  | [] => false
  | c :: rest => if inRanges ignorableRanges c then casedFirst rest else inRanges casedRanges c

/-- Lower case of a text after others; `inWord` tells whether the nearest of them not passed over has a case. -/
def lowerAfter (inWord : Bool) : List Char → List Char
  | [] => []
  | c :: rest =>
    let image := if c = 'Σ' then (if inWord && !casedFirst rest then ['ς'] else ['σ']) else lowerChar c
    let inWord' := if inRanges ignorableRanges c then inWord else inRanges casedRanges c
    image ++ lowerAfter inWord' rest

/-- The text in lower case. -/
def lower (s : List Char) : List Char := lowerAfter false s

end GridCalc.Text
