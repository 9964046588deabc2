import SourceCensus.Text.Blank
import SourceCensus.Text.EmojiTable
import SourceCensus.Text.LowerCase

/-! # Emoji codes: a name between two colons stands for an emoji -/

namespace SourceCensus.Text

def fitsCode (c : Char) : Bool :=
  c != ':' && ! isBlank c

/-- What stands between the colon at the start of a text and the next one, and what follows it. -/
def readCode? (s : List Char) : Option (List Char × List Char) :=
  match s with
  | ':' :: rest =>
    match rest.dropWhile fitsCode with
    | ':' :: after => some (rest.takeWhile fitsCode, after)
    | _ => none
  | _ => none

theorem eq_of_readCode? {s code after : List Char} (h : readCode? s = some (code, after)) :
    s = ':' :: code ++ ':' :: after := by
  unfold readCode? at h
  split at h
  · rename_i rest
    split at h
    · rename_i after' hrest
      obtain ⟨rfl, rfl⟩ := Prod.mk.inj (Option.some.inj h)
      rw [List.cons_append, ← hrest, List.takeWhile_append_dropWhile]
    · cases h
  · cases h

theorem readCode?_length {s code after : List Char} (h : readCode? s = some (code, after)) :
    after.length < s.length := by
  rw [eq_of_readCode? h, List.length_append, List.length_cons, List.length_cons]
  omega

def codeParts (code : List Char) : List Char × List Char :=
  if "-emoji".toList.isSuffixOf code then (code.take (code.length - 6), ['\uFE0F'])
  else if "-text".toList.isSuffixOf code then (code.take (code.length - 5), ['\uFE0E'])
  else (code, [])

def emojiOf? (code : List Char) : Option (List Char) :=
  let (name, selector) := codeParts code
  (emojiTable.lookup (String.ofList (lower name))).map (· ++ selector)

/-- A text with emoji in the place of their codes.  The colon that ends a code opens no other one,
also where the code is unknown and stays as it is. -/
def withEmoji (s : List Char) : List Char :=
  match s with
  | [] => []
  | c :: rest =>
    match _ : readCode? (c :: rest) with
    | some (code, after) => (emojiOf? code).getD (':' :: code ++ [':']) ++ withEmoji after
    | none => c :: withEmoji rest
termination_by s.length
decreasing_by
  · exact readCode?_length ‹_›
  · simp

theorem withEmoji_cons_of_none {c : Char} {rest : List Char} (h : readCode? (c :: rest) = none) :
    withEmoji (c :: rest) = c :: withEmoji rest := by
  rw [withEmoji]
  split
  · rename_i heq
    rw [h] at heq
    cases heq
  · rfl

theorem withEmoji_of_readCode? {s code after : List Char} (h : readCode? s = some (code, after)) :
    withEmoji s = (emojiOf? code).getD (':' :: code ++ [':']) ++ withEmoji after := by
  cases s with
  | nil => cases h
  | cons c rest =>
    rw [withEmoji]
    split
    · rename_i heq
      rw [h] at heq
      cases heq
      rfl
    · rename_i heq
      rw [h] at heq
      cases heq

end SourceCensus.Text
