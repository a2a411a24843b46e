import Mathlib.Data.List.Sort
import Mathlib.Data.List.Nodup

/-!
# The first rows of an order

What a query with an order and a limit returns: the rows are put into some
sequence that respects the order, and the first of them are taken.  Rows that
the order does not tell apart may come in any sequence.

* `FirstRows.before_of_not_mem` — a row that was left out comes after all that
  were taken, and the limit has been reached.
* `FirstRows.of_length_le` — a limit that is large enough leaves nothing out.
* `FirstRows.exists_of_total` — there is always an answer.
-/

namespace Selection

universe u

variable {Row : Type u}

/-- The first `limit` of the rows, in the order `before`. -/
def FirstRows (before : Row → Row → Prop) (limit : ℕ) (rows batch : List Row) : Prop :=
  ∃ ordered : List Row, ordered.Perm rows ∧ ordered.Pairwise before ∧ batch = ordered.take limit

namespace FirstRows

variable {before : Row → Row → Prop} {limit : ℕ} {rows batch : List Row}

/-- Only rows are returned. -/
theorem mem_of_mem (first : FirstRows before limit rows batch) {row : Row} (member : row ∈ batch) :
    row ∈ rows := by
  obtain ⟨ordered, permuted, -, rfl⟩ := first
  exact permuted.subset (List.mem_of_mem_take member)

/-- They come in order. -/
theorem pairwise (first : FirstRows before limit rows batch) : batch.Pairwise before := by
  obtain ⟨ordered, -, sorted, rfl⟩ := first
  exact sorted.sublist (List.take_sublist _ _)

/-- As many as there are, up to the limit. -/
theorem length_eq (first : FirstRows before limit rows batch) :
    batch.length = min limit rows.length := by
  obtain ⟨ordered, permuted, -, rfl⟩ := first
  rw [List.length_take, permuted.length_eq]

/-- No row is returned twice. -/
theorem nodup (first : FirstRows before limit rows batch) (distinct : rows.Nodup) :
    batch.Nodup := by
  obtain ⟨ordered, permuted, -, rfl⟩ := first
  exact (permuted.nodup_iff.mpr distinct).sublist (List.take_sublist _ _)

/-- **A row that was left out** comes after all that were taken, and the limit
has been reached. -/
theorem before_of_not_mem (first : FirstRows before limit rows batch) {row : Row}
    (member : row ∈ rows) (leftOut : row ∉ batch) :
    batch.length = limit ∧ ∀ taken ∈ batch, before taken row := by
  obtain ⟨ordered, permuted, sorted, rfl⟩ := first
  have split : ordered.take limit ++ ordered.drop limit = ordered := List.take_append_drop _ _
  have inDrop : row ∈ ordered.drop limit := by
    have inOrdered := permuted.mem_iff.mpr member
    rw [← split] at inOrdered
    exact (List.mem_append.mp inOrdered).resolve_left leftOut
  constructor
  · have longer : limit < ordered.length := by
      by_contra short
      rw [List.drop_eq_nil_of_le (not_lt.mp short)] at inDrop
      cases inDrop
    rw [List.length_take]
    omega
  · rw [← split] at sorted
    exact fun taken isTaken => (List.pairwise_append.mp sorted).2.2 taken isTaken row inDrop

/-- **A limit that is large enough** leaves nothing out. -/
theorem of_length_le (first : FirstRows before limit rows batch) (enough : rows.length ≤ limit)
    {row : Row} (member : row ∈ rows) : row ∈ batch := by
  obtain ⟨ordered, permuted, -, rfl⟩ := first
  rw [List.take_of_length_le (by rw [permuted.length_eq]; exact enough)]
  exact permuted.mem_iff.mpr member

/-- What has been taken is the first of itself. -/
theorem self (first : FirstRows before limit rows batch) : FirstRows before limit batch batch := by
  refine ⟨batch, List.Perm.refl _, first.pairwise, (List.take_of_length_le ?_).symm⟩
  rw [first.length_eq]
  exact min_le_left _ _

/-- There is always an answer. -/
theorem exists_of_total [DecidableRel before] (total : ∀ first second, before first second ∨
      before second first)
    (transitive : ∀ first second third, before first second → before second third →
      before first third) (limit : ℕ) (rows : List Row) :
    ∃ batch, FirstRows before limit rows batch := by
  have : Std.Total before := ⟨total⟩
  have : IsTrans Row before := ⟨transitive⟩
  exact ⟨_, rows.insertionSort before, List.perm_insertionSort _ _,
    List.pairwise_insertionSort _ _, rfl⟩

end FirstRows

end Selection
