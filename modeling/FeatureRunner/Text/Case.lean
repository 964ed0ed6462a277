import FeatureRunner.Text.CaseTable

/-!
# Lower case, upper case, and comparison that ignores case

Changing the case of a text may change its length: some letters have a form of several
characters, and the lower-case form of a sigma depends on its place in the word.  Comparison
that ignores case, in contrast, goes character by character, by a representative of each class
of equal letters.
-/

namespace FeatureRunner

/-- The lower-case form of a character, as one character. -/
def lowerLetter (c : Char) : Char :=
  match counterpartIn? c.toNat lowerRuns with
  | some n => Char.ofNat n
  | none => c

/-- The upper-case form of a character, which may have several characters. -/
def upperLetter (c : Char) : Text :=
  match upperSequences.lookup c.toNat with
  | some sequence => sequence.map Char.ofNat
  | none =>
    match counterpartIn? c.toNat upperRuns with
    | some n => [Char.ofNat n]
    | none => [c]

/-- Whether a sigma stands at the end of a word: the next character before it that is not
passed over has a case, and the next one after it has none. -/
def isFinalSigma (before after : Text) : Bool :=
  (match before.dropWhile caseIgnorableRanges.has with
    | c :: _ => casedRanges.has c
    | [] => false) &&
  (match after.dropWhile caseIgnorableRanges.has with
    | c :: _ => !casedRanges.has c
    | [] => true)

/-- The lower-case form of a text whose preceding characters, nearest first, are given. -/
def lowerAfter (before : Text) : Text → Text
  | [] => []
  | c :: rest =>
    (if c = 'Σ' then [if isFinalSigma before rest then 'ς' else 'σ']
      else if c = 'İ' then ['i', '\u0307']
      else [lowerLetter c]) ++ lowerAfter (c :: before) rest

namespace Text

def lower (text : Text) : Text := lowerAfter [] text

def upper (text : Text) : Text := text.flatMap upperLetter

end Text

/-- The representative of all characters that count as equal when case is ignored. -/
def foldLetter (c : Char) : Char :=
  let lowered := lowerLetter c
  match foldPairs.lookup lowered.toNat with
  | some n => Char.ofNat n
  | none => lowered

/-- Whether two characters are equal when case is ignored. -/
def sameLetter (a b : Char) : Bool := a == b || foldLetter a == foldLetter b

/-- All characters that are equal to the given one when case is ignored, itself included. -/
def letterVariants (c : Char) : List Char :=
  let representative := (foldLetter c).toNat
  let lowered := representative ::
    (foldPairs.filter fun pair => pair.2 = representative).map Prod.fst
  let sources := lowered.flatMap fun n => lowerRuns.filterMap (·.source? n)
  c :: (lowered ++ sources).map Char.ofNat

@[simp]
theorem sameLetter_self (c : Char) : sameLetter c c = true := by
  simp [sameLetter]

end FeatureRunner
