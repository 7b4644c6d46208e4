import Mathlib.Data.List.Sort
import PromptStudio.Prompt.BlockOrder

/-!
# Blocks in the order of a profile

Blocks stand by their ranks, and blocks of one rank keep the order in which they were given. A key may be given more than
once, so what keeps its order are not keys but their occurrences: each is a key with the place where it was given. No two
occurrences share a place, so rank and place together leave one order only.

The rank of a role is its last place in the preferred order. Roles without a place and keys without a block share the
rank behind all places, which puts them behind everything that is listed, among themselves as they were given.
-/

namespace PromptStudio

/-! ### Ranks -/

namespace BlockType

variable {preferred before after : List BlockType} {t : BlockType}

theorem rank_of_last (h : t ∉ after) : t.rank (before ++ t :: after) = before.length := by
  have hback : (before ++ t :: after).reverse.idxOf? t = some after.length := by
    rw [List.reverse_append, List.reverse_cons, List.append_assoc, List.singleton_append, List.idxOf?_eq_some_iff]
    refine ⟨by simp, by simp, fun place hplace hsame => h ?_⟩
    rw [List.getElem_append_left (by simpa using hplace)] at hsame
    exact List.mem_reverse.mp (List.mem_of_getElem hsame)
  rw [rank, hback, List.length_append, List.length_cons]
  dsimp only
  omega

theorem rank_of_notMem (h : t ∉ preferred) : t.rank preferred = preferred.length := by
  rw [rank, List.idxOf?_eq_none_iff.mpr (mt List.mem_reverse.mp h)]

theorem rank_lt_of_mem (h : t ∈ preferred) : t.rank preferred < preferred.length := by
  obtain ⟨after, before, hreverse, hafter⟩ := List.eq_append_cons_of_mem (List.mem_reverse.mpr h)
  obtain rfl : preferred = before.reverse ++ t :: after.reverse := by
    rw [← List.reverse_reverse preferred, hreverse]
    simp
  rw [rank_of_last (mt List.mem_reverse.mp hafter), List.length_append, List.length_cons]
  omega

end BlockType

namespace Catalog

variable {c : Catalog} {preferred : List BlockType} {keys : List Text} {key : Text} {placed other : List (Text × Nat)}

/-- Whether a key is that of a block whose role has a place in the preferred order. -/
def isListed (c : Catalog) (preferred : List BlockType) (key : Text) : Bool :=
  (c.blocks.get? key).any fun b => preferred.contains b.type

theorem blockRank_of_block {b : Block} (h : c.blocks.get? key = some b) :
    c.blockRank preferred key = b.type.rank preferred := by
  rw [blockRank, h]

theorem blockRank_lt_of_isListed (h : c.isListed preferred key = true) :
    c.blockRank preferred key < preferred.length := by
  obtain ⟨b, hblock, hlisted⟩ := (Option.any_eq_true _ _).mp h
  rw [blockRank_of_block hblock]
  exact BlockType.rank_lt_of_mem (List.contains_iff_mem.mp hlisted)

theorem blockRank_of_not_isListed (h : ¬ c.isListed preferred key = true) :
    c.blockRank preferred key = preferred.length := by
  cases hblock : c.blocks.get? key with
  | none => rw [blockRank, hblock]
  | some b =>
      rw [isListed, hblock, Option.any_some, List.contains_iff_mem] at h
      rw [blockRank_of_block hblock, BlockType.rank_of_notMem h]

theorem blockRank_eq_length_iff : c.blockRank preferred key = preferred.length ↔ ¬ c.isListed preferred key = true :=
  ⟨fun h hlisted => (blockRank_lt_of_isListed hlisted).ne h, blockRank_of_not_isListed⟩

/-! ### Occurrences -/

/-- The occurrences of keys by rank, those of one rank in the order of their places. -/
structure RankedOrder (c : Catalog) (preferred : List BlockType) (keys : List Text) (placed : List (Text × Nat)) :
    Prop where
  occurrences : placed.Perm keys.zipIdx
  ranks : placed.Pairwise fun a b => c.blockRank preferred a.1 ≤ c.blockRank preferred b.1
  ties : placed.Pairwise fun a b => c.blockRank preferred a.1 = c.blockRank preferred b.1 → a.2 < b.2

theorem RankedOrder.eq (h : c.RankedOrder preferred keys placed) (hother : c.RankedOrder preferred keys other) :
    placed = other := by
  have hlex := h.ranks.and h.ties
  have hlexother := hother.ranks.and hother.ties
  refine (h.occurrences.trans hother.occurrences.symm).eq_of_pairwise (fun a b _ _ hab hba => ?_) hlex hlexother
  -- Two occurrences that stand before each other have one rank, and then each place is below the other.
  have hrank := Nat.le_antisymm hab.1 hba.1
  exact absurd (hab.2 hrank) (hba.2 hrank.symm).not_gt

theorem blockRank_le_trans (c : Catalog) (preferred : List BlockType) (a b d : Text)
    (hab : decide (c.blockRank preferred a ≤ c.blockRank preferred b) = true)
    (hbd : decide (c.blockRank preferred b ≤ c.blockRank preferred d) = true) :
    decide (c.blockRank preferred a ≤ c.blockRank preferred d) = true := by
  rw [decide_eq_true_eq] at hab hbd ⊢
  exact hab.trans hbd

theorem blockRank_le_total (c : Catalog) (preferred : List BlockType) (a b : Text) :
    (decide (c.blockRank preferred a ≤ c.blockRank preferred b)
      || decide (c.blockRank preferred b ≤ c.blockRank preferred a)) = true := by
  rw [Bool.or_eq_true, decide_eq_true_eq, decide_eq_true_eq]
  exact Nat.le_total _ _

theorem pairwise_place_ne (h : placed.Perm keys.zipIdx) : placed.Pairwise fun a b => a.2 ≠ b.2 := by
  have hplaces : (placed.map Prod.snd).Nodup := by
    rw [(h.map Prod.snd).nodup_iff, List.zipIdx_map_snd]
    exact List.nodup_range'
  exact List.pairwise_map.mp hplaces

/-- Sorting occurrences by rank, and by place where ranks are equal, and forgetting the places is sorting keys. -/
theorem exists_rankedOrder (c : Catalog) (keys : List Text) (preferred : List BlockType) :
    ∃ placed, c.RankedOrder preferred keys placed ∧ placed.map (·.1) = c.orderBlocks keys preferred := by
  have hperm : (keys.zipIdx.mergeSort
      (List.zipIdxLE fun a b => c.blockRank preferred a ≤ c.blockRank preferred b)).Perm keys.zipIdx :=
    List.mergeSort_perm _ _
  have hsorted := List.pairwise_mergeSort (List.zipIdxLE_trans (c.blockRank_le_trans preferred))
    (List.zipIdxLE_total (c.blockRank_le_total preferred)) keys.zipIdx
  simp only [List.zipIdxLE, Bool.if_false_right, Bool.if_true_right, Bool.and_eq_true, decide_eq_true_eq] at hsorted
  refine ⟨_, ⟨hperm, hsorted.imp fun h => h.1, (hsorted.and (pairwise_place_ne hperm)).imp fun h hrank => ?_⟩,
    List.mergeSort_zipIdx⟩
  obtain ⟨⟨-, hplaces⟩, hne⟩ := h
  rw [decide_eq_true hrank.ge] at hplaces
  exact lt_of_le_of_ne (by simpa using hplaces) hne

/-! ### Keys -/

theorem orderBlocks_perm (c : Catalog) (keys : List Text) (preferred : List BlockType) :
    (c.orderBlocks keys preferred).Perm keys :=
  List.mergeSort_perm _ _

theorem pairwise_orderBlocks (c : Catalog) (keys : List Text) (preferred : List BlockType) :
    (c.orderBlocks keys preferred).Pairwise fun a b => c.blockRank preferred a ≤ c.blockRank preferred b :=
  (List.pairwise_mergeSort (c.blockRank_le_trans preferred) (c.blockRank_le_total preferred) keys).imp
    fun h => of_decide_eq_true h

theorem orderBlocks_of_pairwise
    (h : keys.Pairwise fun a b => c.blockRank preferred a ≤ c.blockRank preferred b) :
    c.orderBlocks keys preferred = keys :=
  List.mergeSort_of_pairwise (h.imp fun hrank => decide_eq_true hrank)

/-- No key without a place in the preferred order stands before one that has a place. -/
theorem pairwise_isListed_orderBlocks (c : Catalog) (keys : List Text) (preferred : List BlockType) :
    (c.orderBlocks keys preferred).Pairwise fun a b => c.isListed preferred b = true → c.isListed preferred a = true := by
  refine (c.pairwise_orderBlocks keys preferred).imp fun {a b} hrank hlisted => ?_
  by_contra hunlisted
  have hlast := blockRank_of_not_isListed hunlisted
  have hplace := blockRank_lt_of_isListed hlisted
  omega

end Catalog

/-- Of every catalog, all keys, repeated and unknown ones too, and every preferred order, with repeated roles too: the
rank of a block is the last place of its role, and the rank behind all places is that of the keys that are unknown or
whose role has no place. The order of the keys is a permutation of them in which ranks never decrease, and no key without
a place stands before one with a place. It is the only order in which the occurrences of the keys stand by rank and those
of one rank as they were given; and to order it again changes nothing. -/
theorem blocks_stand_by_rank_as_given (c : Catalog) (keys : List Text) (preferred : List BlockType) :
    (∀ key b before after, c.blocks.get? key = some b → preferred = before ++ b.type :: after → b.type ∉ after →
        c.blockRank preferred key = before.length) ∧
      (∀ key, c.blockRank preferred key = preferred.length ↔ ¬ c.isListed preferred key = true) ∧
      (c.orderBlocks keys preferred).Perm keys ∧
      ((c.orderBlocks keys preferred).Pairwise fun a b => c.blockRank preferred a ≤ c.blockRank preferred b) ∧
      ((c.orderBlocks keys preferred).Pairwise fun a b =>
        c.isListed preferred b = true → c.isListed preferred a = true) ∧
      (∃ placed, c.RankedOrder preferred keys placed ∧ placed.map (·.1) = c.orderBlocks keys preferred ∧
        ∀ other, c.RankedOrder preferred keys other → other = placed) ∧
      c.orderBlocks (c.orderBlocks keys preferred) preferred = c.orderBlocks keys preferred := by
  refine ⟨?_, fun key => Catalog.blockRank_eq_length_iff, c.orderBlocks_perm keys preferred,
    c.pairwise_orderBlocks keys preferred, c.pairwise_isListed_orderBlocks keys preferred, ?_,
    Catalog.orderBlocks_of_pairwise (c.pairwise_orderBlocks keys preferred)⟩
  · rintro key b before after hblock rfl hlast
    rw [Catalog.blockRank_of_block hblock, BlockType.rank_of_last hlast]
  · obtain ⟨placed, hplaced, hkeys⟩ := c.exists_rankedOrder keys preferred
    exact ⟨placed, hplaced, hkeys, fun other hother => hother.eq hplaced⟩

def Catalog.styleAndCamera : Catalog :=
  { profiles := [], blueprints := [], filters := [], baseModels := []
    blocks := [("neon", { key := "neon", label := "Neon", template := "neon light", type := .style }),
      ("zoom", { key := "zoom", label := "Zoom", template := "zoom lens", type := .camera })] }

/-- Where the style is listed before and behind the camera, the camera comes first. An unknown key goes behind both, and
a repeated one stays repeated. -/
theorem camera_comes_before_repeated_style :
    Catalog.styleAndCamera.orderBlocks ["gone", "neon", "zoom", "neon"] [.style, .camera, .style]
      = ["zoom", "neon", "neon", "gone"] := by
  obtain ⟨-, -, -, -, -, ⟨placed, -, hkeys, hunique⟩, -⟩ := blocks_stand_by_rank_as_given Catalog.styleAndCamera
    ["gone", "neon", "zoom", "neon"] [.style, .camera, .style]
  rw [← hkeys, ← hunique [("zoom", 2), ("neon", 1), ("neon", 3), ("gone", 0)] ⟨by decide, by decide, by decide⟩]
  rfl

end PromptStudio
