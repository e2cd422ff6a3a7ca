import Mathlib.Data.List.Basic

/-!
# Text in bytes, and its words

* `encode` writes a text in UTF-8;
* `decodeLossy` reads it back, and puts a replacement character where bytes are none;
* `splitWhitespace` — the words of a text, each of them a `Word`.

`decodeLossy_encode` is the round trip of the first two, and `words_spaced` says that words
with spaces between them are its words.
-/

namespace Rabia.Lib

namespace Text

/-- A text in UTF-8. -/
def encode (text : String) : List UInt8 := text.toList.flatMap String.utf8EncodeChar

/-! ## Reading bytes as text -/

def continues (byte : UInt8) : Bool := 0x80 ≤ byte && byte ≤ 0xBF

/-- Whether a character can begin with these two bytes. -/
def opens (first second : UInt8) : Bool :=
  if first < 0xC2 then false
  else if first = 0xE0 then 0xA0 ≤ second && second ≤ 0xBF
  else if first = 0xED then 0x80 ≤ second && second ≤ 0x9F
  else if first = 0xF0 then 0x90 ≤ second && second ≤ 0xBF
  else if first = 0xF4 then 0x80 ≤ second && second ≤ 0x8F
  else first < 0xF4 && continues second

/-- Where `first` begins no character, how many of the bytes that follow could have belonged
to one: they are replaced together with it. -/
def replacedAfter (first : UInt8) : List UInt8 → Nat
  | [] => 0
  | second :: rest =>
    if opens first second then
      match rest with
      -- the fourth byte is the one that is missing
      | third :: _ => if 0xF0 ≤ first && continues third then 2 else 1
      | [] => 1
    else 0

def charactersFrom : Nat → List UInt8 → List Char
  | _, [] => []
  | skipped + 1, _ :: bytes => charactersFrom skipped bytes
  | 0, first :: bytes =>
    match (first :: bytes).toByteArray.utf8DecodeChar? 0 with
    | some c => c :: charactersFrom (c.utf8Size - 1) bytes
    | none => '\uFFFD' :: charactersFrom (replacedAfter first bytes) bytes

/-- The text in the bytes. -/
def decodeLossy (bytes : List UInt8) : String := String.ofList (charactersFrom 0 bytes)

theorem charactersFrom_append (skipped bytes : List UInt8) :
    charactersFrom skipped.length (skipped ++ bytes) = charactersFrom 0 bytes := by
  induction skipped with
  | nil => rfl
  | cons byte skipped ih => exact ih

theorem charactersFrom_encodeChar (c : Char) (bytes : List UInt8) :
    charactersFrom 0 (String.utf8EncodeChar c ++ bytes) = c :: charactersFrom 0 bytes := by
  have whole : (String.utf8EncodeChar c ++ bytes).toByteArray.utf8DecodeChar? 0 = some c := by
    rw [List.toByteArray_append]
    exact ByteArray.utf8DecodeChar?_utf8EncodeChar_append
  have size := String.length_utf8EncodeChar c
  cases encoded : String.utf8EncodeChar c with
  | nil =>
      have positive := c.utf8Size_pos
      rw [encoded, List.length_nil] at size
      omega
  | cons first rest =>
      rw [encoded, List.length_cons] at size
      rw [encoded] at whole
      have skipped : c.utf8Size - 1 = rest.length := by omega
      rw [List.cons_append] at whole ⊢
      simp only [charactersFrom, whole, skipped]
      rw [charactersFrom_append]

/-- What was written is read. -/
theorem decodeLossy_encode (text : String) : decodeLossy (encode text) = text := by
  have same : ∀ characters : List Char,
      charactersFrom 0 (characters.flatMap String.utf8EncodeChar) = characters := by
    intro characters
    induction characters with
    | nil => rfl
    | cons c characters ih => rw [List.flatMap_cons, charactersFrom_encodeChar, ih]
  unfold decodeLossy encode
  rw [same, String.ofList_toList]

/-- A broken character of four bytes, cut before its last, is one replacement character; a
byte that begins none is one as well. -/
example : decodeLossy [0xF0, 0x9F, 0x92, 0x41, 0xC0, 0x80] = "\uFFFDA\uFFFD\uFFFD" := by
  decide +kernel

/-! ## Words -/

/-- The characters with the property `White_Space`. -/
def isWhitespace (c : Char) : Bool :=
  (9 ≤ c.toNat && c.toNat ≤ 13) || c.toNat ∈ [0x20, 0x85, 0xA0, 0x1680] ||
    (0x2000 ≤ c.toNat && c.toNat ≤ 0x200A) || c.toNat ∈ [0x2028, 0x2029, 0x202F, 0x205F, 0x3000]

/-- A text that is not empty and has no white space. -/
structure Word where
  text : String
  nonempty : text ≠ ""
  solid : ∀ c ∈ text.toList, isWhitespace c = false
deriving DecidableEq

theorem Word.ext {w w' : Word} (same : w.text = w'.text) : w = w' := by
  cases w
  cases w'
  cases same
  rfl

/-- The words of a text, in their order. -/
def splitWhitespace (text : String) : List String :=
  ((text.toList.splitOnP isWhitespace).filter fun piece => !piece.isEmpty).map String.ofList

theorem solid_of_mem_splitOnP {characters piece : List Char}
    (member : piece ∈ characters.splitOnP isWhitespace) : ∀ c ∈ piece, isWhitespace c = false := by
  induction characters generalizing piece with
  | nil =>
      rw [List.splitOnP_nil, List.mem_singleton] at member
      subst member
      intro c impossible
      cases impossible
  | cons c characters ih =>
      rw [List.splitOnP_cons_eq_if_modifyHead] at member
      split at member
      · rcases List.mem_cons.mp member with rfl | later
        · intro c impossible
          cases impossible
        · exact ih later
      · next solid =>
          cases pieces : characters.splitOnP isWhitespace with
          | nil => exact absurd pieces (List.splitOnP_ne_nil _ _)
          | cons head tail =>
              rw [pieces, List.modifyHead_cons] at member
              rw [pieces] at ih
              rcases List.mem_cons.mp member with rfl | later
              · intro c' inside
                rcases List.mem_cons.mp inside with rfl | inside
                · exact Bool.eq_false_iff.mpr solid
                · exact ih List.mem_cons_self c' inside
              · exact ih (List.mem_cons_of_mem _ later)

/-- What `splitWhitespace` finds are words. -/
theorem word_of_mem {text w : String} (member : w ∈ splitWhitespace text) :
    w ≠ "" ∧ ∀ c ∈ w.toList, isWhitespace c = false := by
  simp only [splitWhitespace, List.mem_map, List.mem_filter] at member
  obtain ⟨piece, ⟨inside, nonempty⟩, rfl⟩ := member
  refine ⟨?_, ?_⟩
  · intro empty
    have none_left : piece = [] := by
      rw [← String.toList_ofList (l := piece), empty, String.toList_empty]
    rw [none_left] at nonempty
    cases nonempty
  · rw [String.toList_ofList]
    exact solid_of_mem_splitOnP inside

/-- The words of a text. -/
def words (text : String) : List Word :=
  (splitWhitespace text).pmap (fun w word => ⟨w, word.1, word.2⟩) fun _ => word_of_mem

theorem map_text_words (text : String) : (words text).map Word.text = splitWhitespace text := by
  unfold words
  rw [List.map_pmap]
  exact List.pmap_eq_self.mpr fun _ _ => rfl

theorem pieces_of_word (w : Word) :
    w.text.toList.splitOnP isWhitespace = [w.text.toList] ∧ w.text.toList.isEmpty = false := by
  refine ⟨List.splitOnP_eq_singleton w.solid, ?_⟩
  simp [w.nonempty]

theorem splitWhitespace_word (w : Word) : splitWhitespace w.text = [w.text] := by
  obtain ⟨alone, nonempty⟩ := pieces_of_word w
  simp [splitWhitespace, alone, nonempty]

theorem splitWhitespace_append (w : Word) (rest : String) :
    splitWhitespace (w.text ++ " " ++ rest) = w.text :: splitWhitespace rest := by
  obtain ⟨alone, nonempty⟩ := pieces_of_word w
  have separated : (w.text ++ " " ++ rest).toList = w.text.toList ++ ' ' :: rest.toList := by
    simp
  unfold splitWhitespace
  rw [separated, List.splitOnP_append_cons _ _ (by decide), alone]
  simp [nonempty]

/-- Words with spaces between them are the words of the text. -/
theorem words_spaced (ws : List Word) : words (" ".intercalate (ws.map Word.text)) = ws := by
  have texts : splitWhitespace (" ".intercalate (ws.map Word.text)) = ws.map Word.text := by
    induction ws with
    | nil => rfl
    | cons w ws ih =>
        cases ws with
        | nil => exact splitWhitespace_word w
        | cons w' ws =>
            rw [List.map_cons, List.map_cons, String.intercalate_cons_cons,
              splitWhitespace_append, ← List.map_cons, ih]
  rw [← map_text_words] at texts
  exact List.map_injective_iff.mpr (fun _ _ => Word.ext) texts

end Text

end Rabia.Lib
