import BidSystem.ReadCommitted.Guarded

/-!
# The frame of a guarded step

A step is split into what it does to the acting transaction and its `Frame`:
what everybody else may rely on.  A transaction changes slots of its own
partition only, and only while it is `Alone` there, so nobody else's clause of
the invariant is disturbed (`Phase.frame`).

The rest of the module is about the table: who is alone in a partition, and
what touching one slot, appending one row, and ending a transaction do to the
clauses of `TableInv`.
-/

namespace ReadCommitted

universe u v w z k

variable {R : Type u} {C : Type v} {E : Type w} {A : Type z} {K : Type k}

namespace Workload

variable {w : Workload R C E A K}

/-! ## The frame of a step -/

/-- Transaction `tx` changes only slots that are its own to change, all of its
partition, and it removes no committed row and changes no guard. -/
structure Frame (w : Workload R C E A K) (tx : TxId) (table table' : Table R) : Prop where
  slotwise : ∀ i : ℕ, table'[i]? = table[i]? ∨
    (∀ slot, table[i]? = some slot →
      slot.available tx = true ∧ ∀ row ∈ slot.versions, w.part row = w.key tx) ∧
    ∀ slot, table'[i]? = some slot →
      slot.available tx = true ∧ ∀ row ∈ slot.versions, w.part row = w.key tx
  keeps : ∀ (i : ℕ) slot row, table[i]? = some slot → slot.committed = some row →
    ∃ slot' row', table'[i]? = some slot' ∧ slot'.committed = some row' ∧
      w.part row' = w.part row ∧ w.guard row' = w.guard row

/-- Nobody else is inside the partition of `tx` or about to create it. -/
def Alone (w : Workload R C E A K) (tx : TxId) (table : Table R) : Prop :=
  ∀ other, other ≠ tx → w.key other = w.key tx →
    ¬ w.Inside table other ∧
      ∀ row next, w.bodies other = .insert row next → ¬ w.Vacant table other

theorem Frame.refl (w : Workload R C E A K) (tx : TxId) (table : Table R) :
    w.Frame tx table table where
  slotwise _ := .inl rfl
  keeps _ slot row at_i committed := ⟨slot, row, at_i, committed, rfl, rfl⟩

section Others

variable {tx other : TxId} {table table' : Table R}

/-- A slot that another transaction holds does not change. -/
theorem Frame.eq_of_owner (frame : w.Frame tx table table') (different : other ≠ tx) {i : ℕ}
    {slot : Slot R} (at_i : table[i]? = some slot) (owned : slot.owner = some other) :
    table'[i]? = some slot := by
  rcases frame.slotwise i with same | ⟨before, -⟩
  · rw [same, at_i]
  · have free := (before slot at_i).1
    rw [Slot.available_iff, owned] at free
    rcases free with free | free
    · cases free
    · exact absurd (Option.some.inj free) different

/-- Nobody else gains a lock. -/
theorem Frame.eq_of_owner' (frame : w.Frame tx table table') (different : other ≠ tx) {i : ℕ}
    {slot : Slot R} (at_i : table'[i]? = some slot) (owned : slot.owner = some other) :
    table[i]? = some slot := by
  rcases frame.slotwise i with same | ⟨-, after⟩
  · rw [← same, at_i]
  · have free := (after slot at_i).1
    rw [Slot.available_iff, owned] at free
    rcases free with free | free
    · cases free
    · exact absurd (Option.some.inj free) different

theorem Frame.inside_iff (frame : w.Frame tx table table') (different : other ≠ tx) :
    w.Inside table' other ↔ w.Inside table other := by
  constructor
  · rintro ⟨i, slot, row, at_i, owned, rest⟩
    exact ⟨i, slot, row, frame.eq_of_owner' different at_i owned, owned, rest⟩
  · rintro ⟨i, slot, row, at_i, owned, rest⟩
    exact ⟨i, slot, row, frame.eq_of_owner different at_i owned, owned, rest⟩

/-- A transaction changes nothing of another partition. -/
theorem Frame.foreign (frame : w.Frame tx table table') {key : K} (elsewhere : w.key tx ≠ key)
    (i : ℕ) :
    table'[i]? = table[i]? ∨
      (∀ slot, table[i]? = some slot → ∀ row ∈ slot.versions, w.part row ≠ key) ∧
        ∀ slot, table'[i]? = some slot → ∀ row ∈ slot.versions, w.part row ≠ key := by
  rcases frame.slotwise i with same | ⟨before, after⟩
  · exact .inl same
  · refine .inr ⟨fun slot at_i row member => ?_, fun slot at_i row member => ?_⟩
    · rw [(before slot at_i).2 row member]
      exact elsewhere
    · rw [(after slot at_i).2 row member]
      exact elsewhere

/-- A slot with a version of another partition does not change. -/
theorem Frame.eq_of_part (frame : w.Frame tx table table') {i : ℕ} {slot : Slot R} {row : R}
    (at_i : table[i]? = some slot) (member : row ∈ slot.versions)
    (elsewhere : w.part row ≠ w.key tx) : table'[i]? = some slot := by
  rcases frame.slotwise i with same | ⟨before, -⟩
  · rw [same, at_i]
  · exact absurd ((before slot at_i).2 row member) elsewhere

variable [DecidableEq K]

theorem Frame.committedIn (frame : w.Frame tx table table') {key : K}
    (elsewhere : w.key tx ≠ key) : w.committedIn key table' = w.committedIn key table :=
  committedIn_congr (frame.foreign elsewhere)

/-- The work of a transaction in another partition goes on undisturbed. -/
theorem Working.frame {s : Sys R C E A} {status : TxId → Status R C E A}
    (working : w.Working s other) (frame : w.Frame tx s.table table')
    (elsewhere : w.key other ≠ w.key tx) (same : status other = s.status other) :
    w.Working { table := table', status := status } other := by
  have serial : w.serial other table' = w.serial other s.table := by
    rw [Workload.serial, Workload.serial, frame.committedIn (Ne.symm elsewhere)]
  have view : w.viewIn other table' = w.viewIn other s.table :=
    viewIn_congr (frame.foreign (Ne.symm elsewhere))
  cases working with
  | running running confined agrees =>
      exact .running (same.trans running) confined (by rw [view, serial]; exact agrees)
  | locked scanning confined agrees =>
      exact .locked (same.trans scanning) confined (by rw [view, serial]; exact agrees)
  | @updating todo found filter assign next scanning confined distinct pending agrees =>
      -- the rows still to be visited are of the other partition, so they are where they were
      have stay : ∀ i ∈ todo, table'[i]? = s.table[i]? := by
        intro i member
        obtain ⟨slot, row, at_i, visible, accepted⟩ := pending i member
        have here : w.part row = w.key other := (confined.1 row accepted).1
        rw [at_i]
        exact frame.eq_of_part at_i (Slot.mem_versions_of_visible visible)
          (by rw [here]; exact elsewhere)
      have heading : w.viewIn other (Table.assignAt other assign todo table') =
          w.viewIn other (Table.assignAt other assign todo s.table) := by
        apply viewIn_congr
        intro i
        rw [Table.getElem?_assignAt, Table.getElem?_assignAt]
        by_cases member : i ∈ todo
        · rw [stay i member]
          exact .inl rfl
        · have drop : ∀ o : Option (Slot R),
              (o.map fun slot => if i ∈ todo then Table.rewrite other assign slot else slot) =
                o := by
            intro o
            cases o <;> simp [member]
          rw [drop, drop]
          exact frame.foreign (Ne.symm elsewhere) i
      refine .updating (same.trans scanning) confined distinct ?_ (by rw [heading, serial]; exact agrees)
      intro i member
      rw [stay i member]
      exact pending i member

/-- Everybody else stands where they stood. -/
theorem Phase.frame {s : Sys R C E A} {status : TxId → Status R C E A}
    (phase : w.Phase s other) (different : other ≠ tx) (frame : w.Frame tx s.table table')
    (alone : table' = s.table ∨ w.Alone tx s.table) (same : status other = s.status other) :
    w.Phase { table := table', status := status } other := by
  have outside' : ¬ w.Inside s.table other → ¬ w.Inside table' other :=
    mt (frame.inside_iff different).mp
  cases phase with
  | fresh running outside vacant =>
      refine .fresh (same.trans running) (outside' outside) ?_
      intro row next body
      rcases alone with rfl | alone
      · exact vacant row next body
      · have elsewhere : w.key other ≠ w.key tx := fun shared =>
          (alone other different shared).2 row next body (vacant row next body)
        intro i slot version at_i member
        rcases frame.foreign (Ne.symm elsewhere) i with unchanged | ⟨-, after⟩
        · exact vacant row next body i slot version (by rw [← unchanged, at_i]) member
        · exact after slot at_i version member
  | waiting locks scanning outside target =>
      refine .waiting locks (same.trans scanning) (outside' outside) ?_
      rcases target with finished | ⟨i, slot, row, todo, at_i, committed, guard, part⟩
      · exact .inl finished
      · obtain ⟨slot', row', at_i', committed', part', guard'⟩ := frame.keeps i slot row at_i committed
        exact .inr ⟨i, slot', row', todo, at_i', committed', guard'.trans guard,
          part'.trans part⟩
  | away locks running outside unguarded =>
      exact .away locks (same.trans running) (outside' outside) unguarded
  | inside inside entered working =>
      refine .inside ((frame.inside_iff different).mpr inside) entered ?_
      rcases alone with rfl | alone
      · cases working with
        | running running confined agrees => exact .running (same.trans running) confined agrees
        | locked scanning confined agrees => exact .locked (same.trans scanning) confined agrees
        | updating scanning confined distinct pending agrees =>
            exact .updating (same.trans scanning) confined distinct pending agrees
      · have elsewhere : w.key other ≠ w.key tx := fun shared =>
          (alone other different shared).1 inside
        exact working.frame frame elsewhere same
  | ended closed outside =>
      refine .ended ?_ (outside' outside)
      show (status other).isOpen = false
      rw [same, closed]

end Others

section Step

variable {s : Sys R C E A} {tx : TxId} {table : Table R}

/-! ## Who is alone in a partition -/

/-- Whoever may lock the guard row of a partition is alone in it. -/
theorem TableInv.alone_of_guard (inv : w.TableInv table) {i : ℕ} {slot : Slot R} {row : R}
    (at_i : table[i]? = some slot) (free : slot.available tx = true) (member : row ∈ slot.versions)
    (guard : w.guard row = true) (part : w.part row = w.key tx) : w.Alone tx table := by
  intro other different shared
  constructor
  · rintro ⟨j, slot', row', at_j, owned, member', guard', part'⟩
    have same : i = j := inv.oneGuard i j slot slot' row row' at_i at_j member member' guard guard'
      (by rw [part, part', shared])
    subst same
    rw [at_i] at at_j
    cases at_j
    rw [Slot.available_iff, owned] at free
    rcases free with free | free
    · cases free
    · exact different (Option.some.inj free)
  · intro _ _ _ vacant
    exact vacant i slot row at_i member (by rw [part, shared])

theorem TableInv.alone_of_inside (inv : w.TableInv table) (inside : w.Inside table tx) :
    w.Alone tx table := by
  obtain ⟨i, slot, row, at_i, owned, member, guard, part⟩ := inside
  exact inv.alone_of_guard at_i (Slot.available_iff.mpr (.inr owned)) member guard part

/-- The creator of a partition is alone in it before it has inserted anything. -/
theorem Creates.alone {row : R} {next : Option C → Prog R C E A} (creates : w.Creates tx row next)
    (vacant : w.Vacant table tx) : w.Alone tx table := by
  intro other different shared
  constructor
  · rintro ⟨i, slot, row', at_i, -, member, -, part⟩
    exact vacant i slot row' at_i member (by rw [part, shared])
  · intro row' next' body _
    exact different (creates.sole other row' next' body shared)

/-- A transaction outside its partition holds no lock at all. -/
theorem TableInv.holds_nothing (inv : w.TableInv table) (outside : ¬ w.Inside table tx) (i : ℕ)
    (slot : Slot R) (at_i : table[i]? = some slot) : slot.owner ≠ some tx :=
  fun owned => outside (inv.held i slot tx at_i owned).1

/-! ## Locking or rewriting one slot -/

/-- What a visit may do to a slot: the new slot belongs to `tx`, keeps the
committed version, and all its versions stay in the partition with the guard
and the unique columns they had. -/
structure Touches (w : Workload R C E A K) (tx : TxId) (slot slot' : Slot R) : Prop where
  free : slot.available tx = true
  owner : slot'.owner = some tx
  committed : slot'.committed = slot.committed
  part : ∀ row ∈ slot.versions, w.part row = w.key tx
  versions : ∀ row ∈ slot'.versions, ∃ old ∈ slot.versions, w.part row = w.part old ∧
    w.guard row = w.guard old ∧ w.conflict row = w.conflict old

theorem Touches.part' {slot slot' : Slot R} (touches : w.Touches tx slot slot') :
    ∀ row ∈ slot'.versions, w.part row = w.key tx := by
  intro row member
  obtain ⟨old, oldMember, part, -, -⟩ := touches.versions row member
  rw [part, touches.part old oldMember]

theorem Touches.frame {i : ℕ} {slot slot' : Slot R} (touches : w.Touches tx slot slot')
    (at_i : table[i]? = some slot) : w.Frame tx table (table.set i slot') where
  slotwise j := by
    by_cases same : i = j
    · subst same
      refine .inr ⟨fun found at_j => ?_, fun found at_j => ?_⟩
      · rw [at_i] at at_j
        cases at_j
        exact ⟨touches.free, touches.part⟩
      · rw [List.getElem?_set_self (List.getElem?_eq_some_iff.mp at_i).1] at at_j
        cases at_j
        exact ⟨Slot.available_iff.mpr (.inr touches.owner), touches.part'⟩
    · exact .inl (List.getElem?_set_ne same)
  keeps j found row at_j committed := by
    by_cases same : i = j
    · subst same
      rw [at_i] at at_j
      cases at_j
      refine ⟨slot', row, List.getElem?_set_self (List.getElem?_eq_some_iff.mp at_i).1, ?_, rfl, rfl⟩
      rw [touches.committed, committed]
    · exact ⟨found, row, by rw [List.getElem?_set_ne same, at_j], committed, rfl, rfl⟩

/-- The slot found at a position after one slot has been touched. -/
theorem Touches.getElem? {i j : ℕ} {slot slot' found : Slot R} (touches : w.Touches tx slot slot')
    (at_i : table[i]? = some slot) (at_j : (table.set i slot')[j]? = some found) :
    ∃ old, table[j]? = some old ∧ ∀ row ∈ found.versions, ∃ row' ∈ old.versions,
      w.part row = w.part row' ∧ w.guard row = w.guard row' ∧ w.conflict row = w.conflict row' := by
  by_cases same : i = j
  · subst same
    rw [List.getElem?_set_self (List.getElem?_eq_some_iff.mp at_i).1] at at_j
    cases at_j
    exact ⟨slot, at_i, touches.versions⟩
  · rw [List.getElem?_set_ne same] at at_j
    exact ⟨found, at_j, fun row member => ⟨row, member, rfl, rfl, rfl⟩⟩

theorem Touches.tableInv {i : ℕ} {slot slot' : Slot R} (touches : w.Touches tx slot slot')
    (inv : w.TableInv table) (at_i : table[i]? = some slot)
    (inside : w.Inside (table.set i slot') tx) : w.TableInv (table.set i slot') where
  origin j found row at_j member := by
    obtain ⟨old, at_old, same⟩ := touches.getElem? at_i at_j
    obtain ⟨row', member', part, -, unique⟩ := same row member
    obtain ⟨first, source, unique', part'⟩ := inv.origin j old row' at_old member'
    exact ⟨first, source, unique.trans unique', part.trans part'⟩
  coherent j found a b at_j memberA memberB := by
    obtain ⟨old, at_old, same⟩ := touches.getElem? at_i at_j
    obtain ⟨a', memberA', partA, guardA, -⟩ := same a memberA
    obtain ⟨b', memberB', partB, guardB, -⟩ := same b memberB
    obtain ⟨part, guard⟩ := inv.coherent j old a' b' at_old memberA' memberB'
    exact ⟨by rw [partA, part, partB], by rw [guardA, guard, guardB]⟩
  oneGuard j l found found' a b at_j at_l memberA memberB guardedA guardedB shared := by
    obtain ⟨old, at_old, same⟩ := touches.getElem? at_i at_j
    obtain ⟨old', at_old', same'⟩ := touches.getElem? at_i at_l
    obtain ⟨a', memberA', partA, guardA, -⟩ := same a memberA
    obtain ⟨b', memberB', partB, guardB, -⟩ := same' b memberB
    exact inv.oneGuard j l old old' a' b' at_old at_old' memberA' memberB'
      (guardA.symm.trans guardedA) (guardB.symm.trans guardedB) (by rw [← partA, shared, partB])
  held j found other at_j owned := by
    by_cases different : other = tx
    · subst different
      refine ⟨inside, ?_⟩
      by_cases same : i = j
      · subst same
        rw [List.getElem?_set_self (List.getElem?_eq_some_iff.mp at_i).1] at at_j
        cases at_j
        exact touches.part'
      · rw [List.getElem?_set_ne same] at at_j
        exact (inv.held j found other at_j owned).2
    · have frame := touches.frame at_i
      have before := frame.eq_of_owner' different at_j owned
      obtain ⟨otherInside, part⟩ := inv.held j found other before owned
      exact ⟨(frame.inside_iff different).mpr otherInside, part⟩
  present old member guarded := by
    obtain ⟨j, found, row, at_j, committed, guard, part⟩ := inv.present old member guarded
    obtain ⟨slot'', row', at_j', committed', part', guard'⟩ :=
      (touches.frame at_i).keeps j found row at_j committed
    exact ⟨j, slot'', row', at_j', committed', guard'.trans guard, part'.trans part⟩

/-- Touching a slot changes no committed row. -/
theorem Touches.committedRows {i : ℕ} {slot slot' : Slot R} (touches : w.Touches tx slot slot')
    (at_i : table[i]? = some slot) :
    Table.committedRows (table.set i slot') = Table.committedRows table := by
  apply Table.filterMap_congr_getElem?
  intro j
  by_cases same : i = j
  · subst same
    rw [List.getElem?_set_self (List.getElem?_eq_some_iff.mp at_i).1, at_i, Option.bind_some,
      Option.bind_some, touches.committed]
  · rw [List.getElem?_set_ne same]

/-- Locking a slot of the partition touches nothing but its lock. -/
theorem touches_lock (inv : w.TableInv table) {i : ℕ} {slot : Slot R} {row : R}
    (at_i : table[i]? = some slot) (free : slot.available tx = true) (member : row ∈ slot.versions)
    (part : w.part row = w.key tx) : w.Touches tx slot (slot.lock tx) where
  free := free
  owner := rfl
  committed := rfl
  part version memberVersion := by
    rw [(inv.coherent i slot version row at_i memberVersion member).1, part]
  versions version memberVersion := by
    rw [Slot.versions_lock] at memberVersion
    exact ⟨version, memberVersion, rfl, rfl, rfl⟩

/-- Rewriting a row of the partition by an assignment that keeps its partition,
guard and unique columns touches its slot only. -/
theorem touches_write (inv : w.TableInv table) {i : ℕ} {slot : Slot R} {row row' : R}
    (at_i : table[i]? = some slot) (free : slot.available tx = true) (member : row ∈ slot.versions)
    (part : w.part row = w.key tx) (part' : w.part row' = w.part row)
    (guard' : w.guard row' = w.guard row) (unique' : w.conflict row' = w.conflict row) :
    w.Touches tx slot (slot.write tx row') where
  free := free
  owner := rfl
  committed := rfl
  part version memberVersion := by
    rw [(inv.coherent i slot version row at_i memberVersion member).1, part]
  versions version memberVersion := by
    rcases List.mem_append.mp (Slot.versions_write_subset memberVersion) with old | new
    · exact ⟨version, old, rfl, rfl, rfl⟩
    · rw [List.mem_singleton.mp new]
      exact ⟨row, member, part', guard', unique'⟩

/-! ## Inserting a row -/

theorem frame_append {row : R} (part : w.part row = w.key tx) :
    w.Frame tx table (table ++ [Slot.inserted tx row]) where
  slotwise i := by
    by_cases old : i < table.length
    · exact .inl (List.getElem?_append_left old)
    · refine .inr ⟨fun slot at_i => ?_, fun slot at_i => ?_⟩
      · exact absurd (List.getElem?_eq_some_iff.mp at_i).1 old
      · have new : slot = Slot.inserted tx row := by
          have member := List.mem_of_getElem? (List.getElem?_append_right (not_lt.mp old) ▸ at_i)
          exact List.mem_singleton.mp member
        rw [new]
        refine ⟨Slot.available_iff.mpr (.inr rfl), fun version member => ?_⟩
        rw [Slot.versions_inserted, List.mem_singleton] at member
        rw [member, part]
  keeps i slot version at_i committed :=
    ⟨slot, version, by rw [List.getElem?_append_left (List.getElem?_eq_some_iff.mp at_i).1, at_i],
      committed, rfl, rfl⟩

/-- A slot of the extended table is an old one or the new one. -/
theorem getElem?_append_inserted {row : R} {i : ℕ} {slot : Slot R}
    (at_i : (table ++ [Slot.inserted tx row])[i]? = some slot) :
    table[i]? = some slot ∨ i = table.length ∧ slot = Slot.inserted tx row := by
  rw [List.getElem?_append] at at_i
  split at at_i
  · exact .inl at_i
  · next beyond =>
      rw [List.getElem?_singleton] at at_i
      split at at_i
      · exact .inr ⟨by omega, (Option.some.inj at_i).symm⟩
      · cases at_i

theorem TableInv.append (inv : w.TableInv table) {row : R} (part : w.part row = w.key tx)
    (writes : w.writes tx row)
    (soleGuard : w.guard row = true → w.Vacant table tx)
    (inside : w.Inside (table ++ [Slot.inserted tx row]) tx) :
    w.TableInv (table ++ [Slot.inserted tx row]) where
  origin i slot version at_i member := by
    rcases getElem?_append_inserted at_i with old | ⟨-, rfl⟩
    · exact inv.origin i slot version old member
    · rw [Slot.versions_inserted, List.mem_singleton] at member
      rw [member]
      exact ⟨row, .inr ⟨tx, writes⟩, rfl, rfl⟩
  coherent i slot a b at_i memberA memberB := by
    rcases getElem?_append_inserted at_i with old | ⟨-, rfl⟩
    · exact inv.coherent i slot a b old memberA memberB
    · rw [Slot.versions_inserted, List.mem_singleton] at memberA memberB
      rw [memberA, memberB]
      exact ⟨rfl, rfl⟩
  oneGuard i j slot slot' a b at_i at_j memberA memberB guardA guardB shared := by
    rcases getElem?_append_inserted at_i with oldI | ⟨atI, rfl⟩ <;>
      rcases getElem?_append_inserted at_j with oldJ | ⟨atJ, rfl⟩
    · exact inv.oneGuard i j slot slot' a b oldI oldJ memberA memberB guardA guardB shared
    · rw [Slot.versions_inserted, List.mem_singleton] at memberB
      subst memberB
      exact absurd (shared.trans part) (soleGuard guardB i slot a oldI memberA)
    · rw [Slot.versions_inserted, List.mem_singleton] at memberA
      subst memberA
      exact absurd (shared.symm.trans part) (soleGuard guardA j slot' b oldJ memberB)
    · rw [atI, atJ]
  held i slot other at_i owned := by
    have frame : w.Frame tx table (table ++ [Slot.inserted tx row]) := frame_append part
    rcases getElem?_append_inserted at_i with old | ⟨-, rfl⟩
    · by_cases different : other = tx
      · subst different
        exact ⟨inside, (inv.held i slot other old owned).2⟩
      · obtain ⟨otherInside, parts⟩ := inv.held i slot other old owned
        exact ⟨(frame.inside_iff different).mpr otherInside, parts⟩
    · rw [Slot.owner_inserted] at owned
      cases owned
      refine ⟨inside, fun version member => ?_⟩
      rw [Slot.versions_inserted, List.mem_singleton] at member
      rw [member, part]
  present old member guarded := by
    obtain ⟨i, slot, version, at_i, rest⟩ := inv.present old member guarded
    exact ⟨i, slot, version,
      by rw [List.getElem?_append_left (List.getElem?_eq_some_iff.mp at_i).1, at_i], rest⟩

theorem committedRows_append_inserted (row : R) :
    Table.committedRows (table ++ [Slot.inserted tx row]) = Table.committedRows table := by
  simp [Table.committedRows, Slot.inserted]

/-! ## Ending a transaction -/

/-- Commit and rollback alike: release the locks of `tx`, keep a committed row
committed, and invent no version. -/
structure Releases (tx : TxId) (release : Slot R → Slot R) : Prop where
  other : ∀ slot : Slot R, slot.owner ≠ some tx → release slot = slot
  owner : ∀ slot : Slot R, slot.owner = some tx → (release slot).owner = none
  versions : ∀ slot : Slot R, (release slot).versions ⊆ slot.versions
  keeps : ∀ (slot : Slot R) row, slot.committed = some row →
    ∃ row', (release slot).committed = some row'

theorem releases_publish (tx : TxId) : Releases tx (Slot.publish (R := R) tx) where
  other _ notOwner := Slot.publish_of_owner_ne notOwner
  owner slot isOwner := by rw [Slot.owner_publish, if_pos isOwner]
  versions _ := Slot.versions_publish_subset
  keeps slot row committed := by
    rw [Slot.committed_publish]
    rcases slot with ⟨_, holder⟩
    rcases holder with _ | ⟨holder, _ | version⟩
    · exact ⟨row, committed⟩
    · exact ⟨row, committed⟩
    · by_cases same : holder = tx
      · exact ⟨version, by simp [Slot.visible, same]⟩
      · exact ⟨row, by simpa [Slot.visible, same] using committed⟩

theorem releases_discard (tx : TxId) : Releases tx (Slot.discard (R := R) tx) where
  other _ notOwner := Slot.discard_of_owner_ne notOwner
  owner slot isOwner := by rw [Slot.owner_discard, if_pos isOwner]
  versions _ := Slot.versions_discard_subset
  keeps slot row committed := ⟨row, by rw [Slot.committed_discard, committed]⟩

theorem Releases.frame {release : Slot R → Slot R} (releases : Releases tx release)
    (inv : w.TableInv table) : w.Frame tx table (table.map release) where
  slotwise i := by
    rw [List.getElem?_map]
    cases at_i : table[i]? with
    | none => exact .inl rfl
    | some slot =>
        by_cases owned : slot.owner = some tx
        · obtain ⟨-, parts⟩ := inv.held i slot tx at_i owned
          refine .inr ⟨fun found same => ?_, fun found same => ?_⟩
          · cases same
            exact ⟨Slot.available_iff.mpr (.inr owned), parts⟩
          · cases same
            refine ⟨Slot.available_iff.mpr (.inl (releases.owner slot owned)), ?_⟩
            exact fun row member => parts row (releases.versions slot member)
        · exact .inl (by rw [Option.map_some, releases.other slot owned])
  keeps i slot row at_i committed := by
    obtain ⟨row', committed'⟩ := releases.keeps slot row committed
    refine ⟨release slot, row', by rw [List.getElem?_map, at_i, Option.map_some], committed', ?_⟩
    exact inv.coherent i slot row' row at_i
      (releases.versions slot (Slot.mem_versions_of_committed committed'))
      (Slot.mem_versions_of_committed committed)

/-- The end of a transaction that is outside leaves the table as it is. -/
theorem Releases.map_eq {release : Slot R → Slot R} (releases : Releases tx release)
    (inv : w.TableInv table) (outside : ¬ w.Inside table tx) : table.map release = table := by
  conv_rhs => rw [← List.map_id table]
  apply List.map_congr_left
  intro slot member
  obtain ⟨i, at_i⟩ := List.mem_iff_getElem?.mp member
  exact releases.other slot (inv.holds_nothing outside i slot at_i)

/-- Ended transactions are outside. -/
theorem Releases.outside {release : Slot R → Slot R} (releases : Releases tx release) :
    ¬ w.Inside (table.map release) tx := by
  rintro ⟨i, slot, row, at_i, owned, -⟩
  rw [List.getElem?_map] at at_i
  obtain ⟨old, -, rfl⟩ := Option.map_eq_some_iff.mp at_i
  by_cases oldOwned : old.owner = some tx
  · rw [releases.owner old oldOwned] at owned
    cases owned
  · rw [releases.other old oldOwned] at owned
    exact oldOwned owned

theorem Releases.tableInv {release : Slot R → Slot R} (releases : Releases tx release)
    (inv : w.TableInv table) : w.TableInv (table.map release) := by
  have back : ∀ {i : ℕ} {slot : Slot R}, (table.map release)[i]? = some slot →
      ∃ old, table[i]? = some old ∧ slot.versions ⊆ old.versions := by
    intro i slot at_i
    rw [List.getElem?_map] at at_i
    obtain ⟨old, at_old, rfl⟩ := Option.map_eq_some_iff.mp at_i
    exact ⟨old, at_old, releases.versions old⟩
  constructor
  · intro i slot row at_i member
    obtain ⟨old, at_old, subset⟩ := back at_i
    exact inv.origin i old row at_old (subset member)
  · intro i slot a b at_i memberA memberB
    obtain ⟨old, at_old, subset⟩ := back at_i
    exact inv.coherent i old a b at_old (subset memberA) (subset memberB)
  · intro i j slot slot' a b at_i at_j memberA memberB
    obtain ⟨old, at_old, subset⟩ := back at_i
    obtain ⟨old', at_old', subset'⟩ := back at_j
    exact inv.oneGuard i j old old' a b at_old at_old' (subset memberA) (subset' memberB)
  · intro i slot other at_i owned
    have frame := releases.frame inv
    by_cases different : other = tx
    · subst different
      rw [List.getElem?_map] at at_i
      obtain ⟨old, at_old, rfl⟩ := Option.map_eq_some_iff.mp at_i
      by_cases oldOwned : old.owner = some other
      · rw [releases.owner old oldOwned] at owned
        cases owned
      · rw [releases.other old oldOwned] at owned
        exact absurd owned oldOwned
    · obtain ⟨otherInside, parts⟩ :=
        inv.held i slot other (frame.eq_of_owner' different at_i owned) owned
      exact ⟨(frame.inside_iff different).mpr otherInside, parts⟩
  · intro old member guarded
    obtain ⟨i, slot, row, at_i, committed, guard, part⟩ := inv.present old member guarded
    obtain ⟨slot', row', at_i', committed', part', guard'⟩ :=
      (releases.frame inv).keeps i slot row at_i committed
    exact ⟨i, slot', row', at_i', committed', guard'.trans guard, part'.trans part⟩

end Step

variable [DecidableEq K]

/-- The invariant after a step, from its frame and from what it does to the
acting transaction. -/
theorem Inv.of_frame {s : Sys R C E A} {tx : TxId} {table' : Table R}
    {status' : Status R C E A} (inv : w.Inv s) (frame : w.Frame tx s.table table')
    (alone : table' = s.table ∨ w.Alone tx s.table) (kept : w.TableInv table')
    (own : w.Phase { table := table', status := Function.update s.status tx status' } tx) :
    w.Inv { table := table', status := Function.update s.status tx status' } where
  table := kept
  phase other := by
    by_cases same : other = tx
    · rw [same]
      exact own
    · exact (inv.phase other).frame same frame alone (Function.update_of_ne same ..)

end Workload

end ReadCommitted
