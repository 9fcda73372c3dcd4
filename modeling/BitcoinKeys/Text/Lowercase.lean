import BitcoinKeys.Text.CaseTable

/-!
# Lowercase text

Full Unicode lowercasing. Every character maps on its own, apart from the capital sigma, which
becomes a final sigma at the end of a word.
-/

namespace BitcoinKeys.Text

def lowercaseChar (char : Char) : List Char :=
  if char.toNat < 0x80 then [char.toLower]
  else if char = 'İ' then ['i', '\u0307']
  else
    match capitalRuns.find? (·.covers char.toNat) with
    | some run => [Char.ofNat (run.image char.toNat)]
    | none => [char]

/-- Whether the nearest character that is not case-ignorable is cased. -/
def startsCased (chars : List Char) : Bool :=
  match chars.dropWhile (inRanges caseIgnorableRanges) with
  | [] => false
  | char :: _ => inRanges casedRanges char

/-- Lowercases the characters that follow those of `before`, which is in reverse order. -/
def lowercaseAfter (before : List Char) : List Char → List Char
  | [] => []
  | 'Σ' :: rest =>
      (if startsCased before && !startsCased rest then 'ς' else 'σ') ::
        lowercaseAfter ('Σ' :: before) rest
  | char :: rest => lowercaseChar char ++ lowercaseAfter (char :: before) rest

def lowercase (text : String) : String :=
  String.ofList (lowercaseAfter [] text.toList)

/-- A sigma is final only behind a letter and before no letter. -/
example : lowercase "ΣΑΣ İ" = "σας i\u0307" := by decide +kernel

end BitcoinKeys.Text
