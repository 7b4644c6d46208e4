import PromptStudio.Proofs.Json.Ascii

/-!
# Columns of documents

A document is written into its column in ASCII. The column takes a numeral for a number, and no other value is written as
one: so whatever else was written is read back, with halves of pairs joined. A column keeps a document if this is what it
holds, which is the document itself where no two halves stand side by side.
-/

namespace PromptStudio

theorem Blank.trimBoth_cons {α : Type} {p : α → Bool} {c : α} (hc : p c = false) (cs : List α) :
    ∃ more, trimBoth p (c :: cs) = c :: more := by
  have hkept : ¬ p c = true := Bool.eq_false_iff.mp hc
  refine ⟨dropTail p cs, ?_⟩
  rw [trimBoth, List.dropWhile_cons_of_neg hkept, dropTail, dropTail, List.reverse_cons, List.dropWhile_append]
  split
  · rename_i hnone
    rw [List.isEmpty_iff.mp hnone, List.dropWhile_cons_of_neg hkept]
    rfl
  · rw [List.reverse_append]
    rfl

namespace Json

def isNumber : Json → Bool
  | .int _ | .float _ => true
  | _ => false

/-- The first characters of the written forms of all values but numbers. -/
def openings : List Char :=
  ['n', 't', 'f', '"', '[', '\x7b']

theorem head_render_of_not_number (form : Form) : ∀ {v : Json}, v.isNumber = false →
    ∃ c ∈ openings, ∃ t, render form v = .char c :: t
  | .null, _ | .bool true, _ | .bool false, _ | .string _, _ | .array _, _ | .object _, _ =>
      ⟨_, by decide, _, rfl⟩

/-- A value that is kept in a column of documents. -/
structure IsDocument (v : Json) : Prop where
  noNumber : v.isNumber = false
  keys : v.hasDistinctKeys = true
  depth : v.depth ≤ 2

theorem isDocument_ofTexts (texts : List Text) : (ofTexts texts).IsDocument where
  noNumber := rfl
  keys := hasDistinctKeys_ofTexts texts
  depth := Nat.le_trans (depth_ofTexts_le texts) (by decide)

theorem isDocument_ofFields {fields : List (String × Json)} (hnames : (fields.map (·.1)).Nodup)
    (h : ∀ f ∈ fields, f.2.hasDistinctKeys = true ∧ f.2.depth ≤ 1) : (ofFields fields).IsDocument where
  noNumber := rfl
  keys := hasDistinctKeys_ofFields hnames fun f hf => (h f hf).1
  depth := depth_ofFields_le fun f hf => (h f hf).2

end Json

namespace Cell

theorem numerals_of_opening {c : Char} (hc : c ∈ Json.openings) (cs : List Char) :
    isMargin c = false ∧ wholeNumeral? (c :: cs) = none ∧ realNumeral? (c :: cs) = none := by
  simp only [Json.openings, List.mem_cons, List.not_mem_nil, or_false] at hc
  rcases hc with rfl | rfl | rfl | rfl | rfl | rfl <;> exact ⟨rfl, rfl, rfl⟩

theorem asNumber_of_opening {c : Char} (hc : c ∈ Json.openings) (t : Text) :
    asNumber (.text (.char c :: t)) = .text (.char c :: t) := by
  rw [asNumber, ofNumeral?]
  cases hchars : Text.toChars? (.char c :: t) with
  | none => rfl
  | some cs =>
      obtain ⟨d, rest, rfl, hd, -⟩ := List.map_eq_cons_iff.mp (Text.toChars?_eq_some.mp hchars).symm
      obtain rfl : d = c := CodePoint.char.inj hd
      obtain ⟨more, hnumeral⟩ := Blank.trimBoth_cons (numerals_of_opening hc []).1 rest
      obtain ⟨-, hwhole, hreal⟩ := numerals_of_opening hc more
      simp only [Option.bind_eq_bind, Option.bind_some, hnumeral, hwhole, hreal]
      rfl

/-- What is written into a column of documents is read back joined, unless it is a number. -/
theorem document_render_ascii {v : Json} (hv : v.IsDocument) (hshort : v.hasShortIntegers = true) {maxDepth : Nat}
    (hdepth : 2 ≤ maxDepth) : (asNumber (.text (Json.render .ascii v))).document maxDepth = .ok v.joined := by
  obtain ⟨c, hc, t, htext⟩ := Json.head_render_of_not_number .ascii hv.noNumber
  rw [htext, asNumber_of_opening hc, ← htext, document, Json.ofText_render_ascii hshort (Nat.le_trans hv.depth hdepth)]

end Cell

namespace JsonColumn

structure Keeps (column : JsonColumn) (v : Json) : Prop where
  joined : column = .ok v.joined
  /-- It is the very document where no two halves stand side by side. -/
  same : v.isApart = true → column = .ok v
  read : v.hasShortIntegers = true → ∀ maxDepth ≥ 2,
    column = (Cell.asNumber (.text (Json.render .ascii v))).document maxDepth

theorem keeps_ofJson {v : Json} (hv : v.IsDocument) : (ofJson v).Keeps v := by
  have hjoined : ofJson v = .ok v.joined := by
    have hnumber := hv.noNumber
    rw [ofJson.eq_def]
    split
    · cases hnumber
    · cases hnumber
    · rfl
  exact
    { joined := hjoined
      same := fun hapart => by rw [hjoined, Json.joined_eq_self hapart hv.keys]
      read := fun hshort maxDepth hdepth => by rw [hjoined, Cell.document_render_ascii hv hshort hdepth] }

end JsonColumn

end PromptStudio
