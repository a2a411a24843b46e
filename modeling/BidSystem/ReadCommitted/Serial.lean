import BidSystem.ReadCommitted.Frame

/-!
# Guarded transactions refine atomic ones

Every step of every interleaving keeps the invariant of
`ReadCommitted.Guarded`.  Besides, it either leaves the committed rows of every
partition unchanged, or is the commit of one transaction and replaces the
committed rows of its partition by what `Prog.exec` makes of them
(`Workload.Outcome`).  So the interleaved system refines the system in which
each transaction is a single atomic step, taken at its commit.

There is one lemma for each place a transaction can stand in (`Phase`), and
inside the partition one for each kind of statement.
-/

namespace ReadCommitted

universe u v w z k

variable {R : Type u} {C : Type v} {E : Type w} {A : Type z} {K : Type k} [DecidableEq K]

/-- The system after one transaction has acted. -/
abbrev Sys.after (s : Sys R C E A) (tx : TxId) (table : Table R) (status : Status R C E A) :
    Sys R C E A :=
  { table := table, status := Function.update s.status tx status }

namespace Workload

variable {w : Workload R C E A K} {s s' : Sys R C E A} {tx : TxId}

/-- What is left of a transaction that never reaches a guard row: all of a body
without statements, or what follows the lock when there is no guard row. -/
inductive Idle (w : Workload R C E A K) (tx : TxId) : Prog R C E A → Prop
  | refused (terminal : (w.bodies tx).Terminal) : Idle w tx (w.bodies tx)
  | away {filter : R → Bool} {next : List R → Prog R C E A} (locks : w.Locks tx filter next)
      (unguarded : w.Unguarded tx) : Idle w tx (next [])

omit [DecidableEq K] in
theorem Idle.terminal {w : Workload R C E A K} {tx : TxId} {body : Prog R C E A}
    (idle : w.Idle tx body) : body.Terminal := by
  cases idle with
  | refused terminal => exact terminal
  | away locks unguarded => exact locks.away

/-- What a step of transaction `tx` means for the committed state. -/
inductive Outcome (w : Workload R C E A K) (s s' : Sys R C E A) (tx : TxId) : Prop
  /-- The transaction stays open. -/
  | quiet (rows : ∀ key, w.committedIn key s'.table = w.committedIn key s.table)
      (still : (s'.status tx).isOpen = true)
  | crashed (rows : ∀ key, w.committedIn key s'.table = w.committedIn key s.table)
      (status : s'.status tx = .aborted none)
  /-- It ends without having reached a guard row. -/
  | idle {body : Prog R C E A} (idle : w.Idle tx body) (outside : ¬ w.Inside s.table tx)
      (rows : ∀ key, w.committedIn key s'.table = w.committedIn key s.table)
      (ended : (∃ result, body = .done result ∧ s'.status tx = .committed result) ∨
        ∃ error, body = .raise error ∧ s'.status tx = .aborted (some error))
  /-- It commits what its body makes of the committed rows. -/
  | committed (result : A) (inside : w.Inside s.table tx)
      (status : s'.status tx = .committed result)
      (serial : w.serial tx s.table = (.ok result, w.committedIn (w.key tx) s'.table))
      (others : ∀ key, w.key tx ≠ key →
        w.committedIn key s'.table = w.committedIn key s.table)
  /-- It raises what its body raises on the committed rows. -/
  | raised (error : E) (inside : w.Inside s.table tx)
      (status : s'.status tx = .aborted (some error))
      (serial : (w.serial tx s.table).1 = .error error)
      (rows : ∀ key, w.committedIn key s'.table = w.committedIn key s.table)

/-! ## The start -/

theorem getElem?_settled {rows : List R} {i : ℕ} {slot : Slot R}
    (at_i : (Table.settled rows)[i]? = some slot) :
    ∃ row, rows[i]? = some row ∧ slot = Slot.settled row := by
  rw [Table.settled, List.getElem?_map] at at_i
  obtain ⟨row, at_row, rfl⟩ := Option.map_eq_some_iff.mp at_i
  exact ⟨row, at_row, rfl⟩

omit [DecidableEq K] in
theorem not_inside_start : ¬ w.Inside w.start.table tx := by
  rintro ⟨i, slot, row, at_i, owned, -⟩
  obtain ⟨row', -, rfl⟩ := getElem?_settled at_i
  cases owned

/-- The invariant holds at the start. -/
theorem Guarded.inv_start (guarded : w.Guarded) : w.Inv w.start where
  table := by
    constructor
    · intro i slot row at_i member
      obtain ⟨old, at_old, rfl⟩ := getElem?_settled at_i
      rw [Slot.versions_settled, List.mem_singleton] at member
      rw [member]
      exact ⟨old, .inl (List.mem_of_getElem? at_old), rfl, rfl⟩
    · intro i slot a b at_i memberA memberB
      obtain ⟨old, at_old, rfl⟩ := getElem?_settled at_i
      rw [Slot.versions_settled, List.mem_singleton] at memberA memberB
      rw [memberA, memberB]
      exact ⟨rfl, rfl⟩
    · intro i j slot slot' a b at_i at_j memberA memberB guardA guardB shared
      obtain ⟨old, at_old, rfl⟩ := getElem?_settled at_i
      obtain ⟨old', at_old', rfl⟩ := getElem?_settled at_j
      rw [Slot.versions_settled, List.mem_singleton] at memberA memberB
      rw [memberA] at guardA shared
      rw [memberB] at guardB shared
      exact guarded.oneGuard i j old old' at_old at_old' guardA guardB shared
    · intro i slot other at_i owned
      obtain ⟨old, -, rfl⟩ := getElem?_settled at_i
      cases owned
    · intro old member guard
      obtain ⟨i, at_i⟩ := List.mem_iff_getElem?.mp member
      refine ⟨i, Slot.settled old, old, ?_, rfl, guard, rfl⟩
      show (Table.settled w.rows)[i]? = some (Slot.settled old)
      rw [Table.settled, List.getElem?_map, at_i, Option.map_some]
  phase tx := by
    refine .fresh rfl not_inside_start ?_
    intro row next body i slot version at_i member
    obtain ⟨old, at_old, rfl⟩ := getElem?_settled at_i
    rw [Slot.versions_settled, List.mem_singleton] at member
    rcases guarded.entry tx with ⟨filter, next', locks⟩ | ⟨row', next', creates⟩ | terminal
    · rw [locks.body] at body
      cases body
    · rw [member]
      exact creates.vacant old (List.mem_of_getElem? at_old)
    · rw [body] at terminal
      cases terminal

/-! ## Ending a transaction -/

/-- Whatever ends a transaction keeps the invariant. -/
theorem Inv.release (inv : w.Inv s) {release : Slot R → Slot R} (releases : Releases tx release)
    {status : Status R C E A} (closed : status.isOpen = false) :
    w.Inv (s.after tx (s.table.map release) status) := by
  refine inv.of_frame (releases.frame inv.table) ?_ (releases.tableInv inv.table) ?_
  · by_cases inside : w.Inside s.table tx
    · exact .inr (inv.table.alone_of_inside inside)
    · exact .inl (releases.map_eq inv.table inside)
  · refine .ended ?_ releases.outside
    show (Function.update s.status tx status tx).isOpen = false
    rw [Function.update_self, closed]

theorem committedIn_discard (key : K) (table : Table R) :
    w.committedIn key (table.map (Slot.discard tx)) = w.committedIn key table := by
  rw [committedIn, committedIn, Table.committedRows_discard]

theorem committedIn_publish (table : Table R) :
    w.committedIn (w.key tx) (table.map (Slot.publish tx)) = w.viewIn tx table := by
  rw [committedIn, viewIn, Table.committedRows_publish]

theorem Inv.crash (inv : w.Inv s) :
    w.Inv (s.after tx (s.table.map (Slot.discard tx)) (.aborted none)) ∧
      w.Outcome s (s.after tx (s.table.map (Slot.discard tx)) (.aborted none)) tx :=
  ⟨inv.release (releases_discard tx) rfl,
    .crashed (fun key => committedIn_discard key s.table) (Function.update_self ..)⟩

/-- A step that leaves the table alone and the transaction open. -/
theorem Inv.silent (inv : w.Inv s) {status : Status R C E A} (still : status.isOpen = true)
    (own : w.Phase (s.after tx s.table status) tx) :
    w.Inv (s.after tx s.table status) ∧ w.Outcome s (s.after tx s.table status) tx := by
  refine ⟨inv.of_frame (Frame.refl w tx s.table) (.inl rfl) inv.table own, .quiet (fun _ => rfl) ?_⟩
  show (Function.update s.status tx status tx).isOpen = true
  rw [Function.update_self, still]

/-! ## Entering the partition -/

/-- The guard row is the only committed row its filter accepts. -/
theorem Inv.guard_rows (inv : w.Inv s) {filter : R → Bool} {next : List R → Prog R C E A}
    (locks : w.Locks tx filter next) {i : ℕ} {slot : Slot R} {row : R}
    (at_i : s.table[i]? = some slot) (committed : slot.committed = some row)
    (accepted : filter row = true) :
    (w.committedIn (w.key tx) s.table).filter filter = [row] := by
  obtain ⟨guard, part⟩ := (locks.filter_iff row).mp accepted
  have narrow : (w.committedIn (w.key tx) s.table).filter filter =
      s.table.filterMap fun slot => slot.committed.filter filter := by
    rw [committedIn, List.filter_filter, Table.committedRows, List.filter_filterMap]
    apply List.filterMap_congr
    intro slot _
    congr 1
    funext row
    by_cases accepted : filter row = true
    · simp [accepted, ((locks.filter_iff row).mp accepted).2]
    · simp [accepted]
  rw [narrow]
  refine filterMap_eq_singleton at_i (by rw [committed, Option.filter_some_pos accepted]) ?_
  intro j slot' at_j different
  rw [Option.filter_eq_none_iff]
  intro row' committed' accepted'
  obtain ⟨guard', part'⟩ := (locks.filter_iff row').mp accepted'
  exact different (inv.table.oneGuard j i slot' slot row' row at_j at_i
    (Slot.mem_versions_of_committed committed') (Slot.mem_versions_of_committed committed)
    guard' guard (by rw [part', part]))

/-- A locking body takes its snapshot. -/
theorem Inv.step_lock (inv : w.Inv s) {filter : R → Bool} {next : List R → Prog R C E A}
    (locks : w.Locks tx filter next) (outside : ¬ w.Inside s.table tx) :
    w.Phase (s.after tx s.table (.scanning
      { todo := Table.candidates tx filter s.table, found := [], filter := filter
        assign := none, resume := next })) tx := by
  refine .waiting locks (Function.update_self ..) outside ?_
  have seen : ∀ i ∈ Table.candidates tx filter s.table, ∃ slot row, s.table[i]? = some slot ∧
      slot.committed = some row ∧ w.guard row = true ∧ w.part row = w.key tx := by
    intro i member
    obtain ⟨slot, row, at_i, visible, accepted⟩ := Table.mem_candidates.mp member
    rw [Slot.visible_of_owner_ne (inv.table.holds_nothing outside i slot at_i)] at visible
    exact ⟨slot, row, at_i, visible, (locks.filter_iff row).mp accepted⟩
  have distinct : (Table.candidates tx filter s.table).Nodup := Table.nodup_candidates
  rcases shape : Table.candidates tx filter s.table with _ | ⟨i, _ | ⟨j, rest⟩⟩
  · refine .inl ⟨rfl, fun old member guard part => ?_⟩
    obtain ⟨i, slot, row, at_i, committed, guard', part'⟩ := inv.table.present old member guard
    have candidate : i ∈ Table.candidates tx filter s.table := by
      refine Table.mem_candidates.mpr ⟨slot, row, at_i, ?_, ?_⟩
      · rw [Slot.visible_of_owner_ne (inv.table.holds_nothing outside i slot at_i), committed]
      · exact (locks.filter_iff row).mpr ⟨guard', part'.trans part⟩
    rw [shape] at candidate
    cases candidate
  · obtain ⟨slot, row, facts⟩ := seen i (by rw [shape]; exact List.mem_singleton_self i)
    exact .inr ⟨i, slot, row, rfl, facts⟩
  · -- a second candidate would be a second guard row
    obtain ⟨slot, row, at_i, committed, guard, part⟩ := seen i (by rw [shape]; simp)
    obtain ⟨slot', row', at_j, committed', guard', part'⟩ := seen j (by rw [shape]; simp)
    have same : i = j := inv.table.oneGuard i j slot slot' row row' at_i at_j
      (Slot.mem_versions_of_committed committed) (Slot.mem_versions_of_committed committed')
      guard guard' (by rw [part, part'])
    rw [shape, same] at distinct
    simp at distinct

/-- A transaction that gets the guard row is inside, and its view is the
committed state of the partition. -/
theorem Inv.step_enter (inv : w.Inv s) {filter : R → Bool} {next : List R → Prog R C E A}
    (locks : w.Locks tx filter next) (outside : ¬ w.Inside s.table tx) {i : ℕ} {slot : Slot R}
    {row : R} (at_i : s.table[i]? = some slot) (free : slot.available tx = true)
    (committed : slot.committed = some row) (accepted : filter row = true)
    {status : Status R C E A}
    (isStatus : status = .scanning
      { todo := [], found := [row], filter := filter, assign := none, resume := next }) :
    w.Inv (s.after tx (s.table.set i (slot.lock tx)) status) ∧
      w.Outcome s (s.after tx (s.table.set i (slot.lock tx)) status) tx := by
  obtain ⟨guard, part⟩ := (locks.filter_iff row).mp accepted
  have member : row ∈ slot.versions := Slot.mem_versions_of_committed committed
  have touches := touches_lock inv.table at_i free member part
  have at_i' : (s.table.set i (slot.lock tx))[i]? = some (slot.lock tx) :=
    List.getElem?_set_self (List.getElem?_eq_some_iff.mp at_i).1
  have inside : w.Inside (s.table.set i (slot.lock tx)) tx :=
    ⟨i, slot.lock tx, row, at_i', rfl, by rw [Slot.versions_lock]; exact member, guard, part⟩
  have rows : ∀ key, w.committedIn key (s.table.set i (slot.lock tx)) =
      w.committedIn key s.table := by
    intro key
    rw [committedIn, committedIn, touches.committedRows at_i]
  have view : w.viewIn tx (s.table.set i (slot.lock tx)) = w.committedIn (w.key tx) s.table := by
    have sees : Table.visibleRows tx (s.table.set i (slot.lock tx)) =
        Table.committedRows s.table := by
      apply Table.filterMap_congr_getElem?
      intro j
      by_cases same : i = j
      · subst same
        rw [at_i', at_i, Option.bind_some, Option.bind_some, Slot.visible_lock_self free,
          Slot.visible_of_owner_ne (inv.table.holds_nothing outside i slot at_i)]
      · rw [List.getElem?_set_ne same]
        cases at_j : s.table[j]? with
        | none => rfl
        | some slot' =>
            exact Slot.visible_of_owner_ne (inv.table.holds_nothing outside j slot' at_j)
    rw [viewIn, sees, committedIn]
  refine ⟨inv.of_frame (touches.frame at_i)
    (.inr (inv.table.alone_of_guard at_i free member guard part))
    (touches.tableInv inv.table at_i inside) (.inside inside locks.not_terminal ?_),
    .quiet rows ?_⟩
  · refine @Working.locked _ _ _ _ _ _ w _ _ [row] filter next ?_
      (locks.confined row accepted) ?_
    · show Function.update s.status tx status tx = _
      rw [Function.update_self, isStatus]
    · show (next [row]).exec w.conflict (w.viewIn tx (s.table.set i (slot.lock tx))) =
        w.serial tx (s.table.set i (slot.lock tx))
      rw [view, serial, rows, locks.body, Prog.exec_lockRows,
        inv.guard_rows locks at_i committed accepted]
  · show (Function.update s.status tx status tx).isOpen = true
    rw [Function.update_self, isStatus]
    rfl

/-- A body that starts by inserting the guard row of a new partition. -/
theorem Inv.step_create (guarded : w.Guarded) (inv : w.Inv s) {row : R}
    {next : Option C → Prog R C E A} (creates : w.Creates tx row next)
    (vacant : w.Vacant s.table tx) (outside : ¬ w.Inside s.table tx)
    {action : Action} {table' : Table R} {status' : Status R C E A}
    (moved : Status.step w.conflict tx s.table (.running (.insert row next)) action =
      some (table', status')) :
    w.Inv (s.after tx table' status') ∧ w.Outcome s (s.after tx table' status') tx := by
  have empty : w.viewIn tx s.table = [] := by
    rw [viewIn, List.filter_eq_nil_iff]
    intro old member
    obtain ⟨slot, slotMember, visible⟩ := Table.mem_visibleRows.mp member
    obtain ⟨i, at_i⟩ := List.mem_iff_getElem?.mp slotMember
    simpa using vacant i slot old at_i (Slot.mem_versions_of_visible visible)
  have quiet : Prog.violated w.conflict (Table.visibleRows tx s.table) row = none := by
    rw [violated_visibleRows ?_, empty]
    · rfl
    · intro old member loud
      obtain ⟨slot, slotMember, visible⟩ := Table.mem_visibleRows.mp member
      obtain ⟨i, at_i⟩ := List.mem_iff_getElem?.mp slotMember
      obtain ⟨first, source, unique, part⟩ :=
        inv.table.origin i slot old at_i (Slot.mem_versions_of_visible visible)
      rw [unique] at loud
      rw [part, guarded.conflict_part tx first row source creates.writes loud, creates.part]
  cases action with
  | advance =>
      simp only [Status.step, quiet] at moved
      split at moved
      · cases moved
      · obtain ⟨rfl, rfl⟩ := Prod.mk.inj (Option.some.inj moved)
        have inside : w.Inside (s.table ++ [Slot.inserted tx row]) tx :=
          ⟨s.table.length, Slot.inserted tx row, row, by simp, rfl, by simp, creates.guard,
            creates.part⟩
        have rows : ∀ key, w.committedIn key (s.table ++ [Slot.inserted tx row]) =
            w.committedIn key s.table := by
          intro key
          rw [committedIn, committedIn, committedRows_append_inserted]
        have view : w.viewIn tx (s.table ++ [Slot.inserted tx row]) = [row] := by
          rw [viewIn, Table.visibleRows_append, List.filter_append, ← viewIn, empty]
          simp [Table.visibleRows, creates.part]
        have committed : w.committedIn (w.key tx) s.table = [] := by
          rw [← viewIn_of_holds_nothing (inv.table.holds_nothing outside), empty]
        refine ⟨inv.of_frame (frame_append creates.part) (.inr (creates.alone vacant))
          (inv.table.append creates.part creates.writes (fun _ => vacant) inside)
          (.inside inside creates.not_terminal ?_), .quiet rows ?_⟩
        · refine .running (Function.update_self ..) creates.confined ?_
          show (next none).exec w.conflict (w.viewIn tx (s.table ++ [Slot.inserted tx row])) =
            w.serial tx (s.table ++ [Slot.inserted tx row])
          rw [view, serial, rows, committed, creates.body, Prog.exec_insert]
          rfl
        · show (Function.update s.status tx _ tx).isOpen = true
          rw [Function.update_self]
          rfl
  | visit position =>
      simp only [Status.step] at moved
      cases moved
  | crash =>
      simp only [Status.step] at moved
      obtain ⟨rfl, rfl⟩ := Prod.mk.inj (Option.some.inj moved)
      exact inv.crash

/-- A transaction that reaches no guard row ends without having done anything. -/
theorem Inv.step_idle (inv : w.Inv s) {body : Prog R C E A} (idle : w.Idle tx body)
    (outside : ¬ w.Inside s.table tx) {action : Action} {table' : Table R}
    {status' : Status R C E A}
    (moved : Status.step w.conflict tx s.table (.running body) action = some (table', status')) :
    w.Inv (s.after tx table' status') ∧ w.Outcome s (s.after tx table' status') tx := by
  cases idle.terminal with
  | done result =>
      cases action with
      | advance =>
          obtain ⟨rfl, rfl⟩ := Prod.mk.inj (Option.some.inj moved)
          refine ⟨inv.release (releases_publish tx) rfl, .idle idle outside (fun key => ?_)
            (.inl ⟨result, rfl, Function.update_self ..⟩)⟩
          show w.committedIn key (s.table.map (Slot.publish tx)) = _
          rw [(releases_publish tx).map_eq inv.table outside]
      | visit position => cases moved
      | crash =>
          obtain ⟨rfl, rfl⟩ := Prod.mk.inj (Option.some.inj moved)
          exact inv.crash
  | raise error =>
      cases action with
      | advance =>
          obtain ⟨rfl, rfl⟩ := Prod.mk.inj (Option.some.inj moved)
          exact ⟨inv.release (releases_discard tx) rfl,
            .idle idle outside (fun key => committedIn_discard key s.table)
              (.inr ⟨error, rfl, Function.update_self ..⟩)⟩
      | visit position => cases moved
      | crash =>
          obtain ⟨rfl, rfl⟩ := Prod.mk.inj (Option.some.inj moved)
          exact inv.crash

/-! ## Working inside the partition -/

/-- An insert by a transaction inside its partition. -/
theorem Inv.step_insert (guarded : w.Guarded) (inv : w.Inv s) (inside : w.Inside s.table tx)
    (entered : ¬ (w.bodies tx).Terminal) {row : R} {next : Option C → Prog R C E A}
    (confined : (Prog.insert row next).Confined (w.territory tx))
    (agrees : (Prog.insert row next).exec w.conflict (w.viewIn tx s.table) = w.serial tx s.table)
    {table' : Table R} {status' : Status R C E A}
    (moved : Status.step w.conflict tx s.table (.running (.insert row next)) .advance =
      some (table', status')) :
    w.Inv (s.after tx table' status') ∧ w.Outcome s (s.after tx table' status') tx := by
  have part : w.part row = w.key tx := confined.1
  have notGuard : w.guard row = false := confined.2.1
  have writes : w.writes tx row := confined.2.2.1
  have rest := confined.2.2.2
  have same : Prog.violated w.conflict (Table.visibleRows tx s.table) row =
      Prog.violated w.conflict (w.viewIn tx s.table) row := by
    apply violated_visibleRows
    intro old member loud
    obtain ⟨slot, slotMember, visible⟩ := Table.mem_visibleRows.mp member
    obtain ⟨i, at_i⟩ := List.mem_iff_getElem?.mp slotMember
    obtain ⟨first, source, unique, partOld⟩ :=
      inv.table.origin i slot old at_i (Slot.mem_versions_of_visible visible)
    rw [unique] at loud
    rw [partOld, guarded.conflict_part tx first row source writes loud, part]
  rw [Prog.exec_insert, ← same] at agrees
  simp only [Status.step] at moved
  split at moved
  · cases moved
  · split at moved
    · next constraint violation =>
        obtain ⟨rfl, rfl⟩ := Prod.mk.inj (Option.some.inj moved)
        rw [violation] at agrees
        exact inv.silent rfl
          (.inside inside entered (.running (Function.update_self ..) (rest _) agrees))
    · next fresh =>
        obtain ⟨rfl, rfl⟩ := Prod.mk.inj (Option.some.inj moved)
        rw [fresh] at agrees
        have inside' : w.Inside (s.table ++ [Slot.inserted tx row]) tx := by
          obtain ⟨i, slot, version, at_i, facts⟩ := inside
          exact ⟨i, slot, version,
            by rw [List.getElem?_append_left (List.getElem?_eq_some_iff.mp at_i).1, at_i], facts⟩
        have rows : ∀ key, w.committedIn key (s.table ++ [Slot.inserted tx row]) =
            w.committedIn key s.table := by
          intro key
          rw [committedIn, committedIn, committedRows_append_inserted]
        have view : w.viewIn tx (s.table ++ [Slot.inserted tx row]) =
            w.viewIn tx s.table ++ [row] := by
          rw [viewIn, Table.visibleRows_append, List.filter_append, ← viewIn]
          simp [Table.visibleRows, part]
        refine ⟨inv.of_frame (frame_append part) (.inr (inv.table.alone_of_inside inside))
          (inv.table.append part writes ?_ inside') (.inside inside' entered ?_), .quiet rows ?_⟩
        · intro isGuard
          rw [notGuard] at isGuard
          cases isGuard
        · refine .running (Function.update_self ..) (rest none) ?_
          show (next none).exec w.conflict (w.viewIn tx (s.table ++ [Slot.inserted tx row])) =
            w.serial tx (s.table ++ [Slot.inserted tx row])
          rw [view, serial, rows]
          exact agrees
        · show (Function.update s.status tx _ tx).isOpen = true
          rw [Function.update_self]
          rfl

/-- A statement of a transaction inside its partition. -/
theorem Inv.step_running (guarded : w.Guarded) (inv : w.Inv s) (inside : w.Inside s.table tx)
    (entered : ¬ (w.bodies tx).Terminal)
    {rest : Prog R C E A} (confined : rest.Confined (w.territory tx))
    (agrees : rest.exec w.conflict (w.viewIn tx s.table) = w.serial tx s.table)
    {action : Action} {table' : Table R} {status' : Status R C E A}
    (moved : Status.step w.conflict tx s.table (.running rest) action = some (table', status')) :
    w.Inv (s.after tx table' status') ∧ w.Outcome s (s.after tx table' status') tx := by
  cases action with
  | visit position => cases rest <;> cases moved
  | crash =>
      have crashed : some (s.table.map (Slot.discard tx), Status.aborted none) =
          some (table', status') := by
        rw [← moved]
        cases rest <;> rfl
      obtain ⟨rfl, rfl⟩ := Prod.mk.inj (Option.some.inj crashed)
      exact inv.crash
  | advance =>
      cases rest with
      | done result =>
          obtain ⟨rfl, rfl⟩ := Prod.mk.inj (Option.some.inj moved)
          refine ⟨inv.release (releases_publish tx) rfl,
            .committed result inside (Function.update_self ..) ?_ fun key elsewhere => ?_⟩
          · rw [committedIn_publish, ← agrees]
            rfl
          · exact ((releases_publish tx).frame inv.table).committedIn elsewhere
      | raise error =>
          obtain ⟨rfl, rfl⟩ := Prod.mk.inj (Option.some.inj moved)
          exact ⟨inv.release (releases_discard tx) rfl,
            .raised error inside (Function.update_self ..) (by rw [← agrees]; rfl)
              fun key => committedIn_discard key s.table⟩
      | select filter next =>
          obtain ⟨rfl, rfl⟩ := Prod.mk.inj (Option.some.inj moved)
          rw [filter_visibleRows confined.1]
          exact inv.silent rfl
            (.inside inside entered (.running (Function.update_self ..) (confined.2 _) agrees))
      | lockRows filter next => exact confined.elim
      | update filter assign next =>
          obtain ⟨rfl, rfl⟩ := Prod.mk.inj (Option.some.inj moved)
          refine inv.silent rfl (.inside inside entered (@Working.updating _ _ _ _ _ _ w _ _ _ _ filter assign next
            (Function.update_self ..) confined Table.nodup_candidates ?_ ?_))
          · intro i member
            exact Table.mem_candidates.mp member
          · rw [viewIn_assignAt_candidates fun row accepted => (confined.1 row accepted).2.1,
              List.length_nil, Nat.zero_add, length_candidates,
              countP_visibleRows fun row accepted => (confined.1 row accepted).1]
            exact agrees
      | insert row next => exact inv.step_insert guarded inside entered confined agrees moved

/-- An action of a transaction in the middle of an `UPDATE`. -/
theorem Inv.step_updating (inv : w.Inv s) (inside : w.Inside s.table tx)
    (entered : ¬ (w.bodies tx).Terminal) {todo : List ℕ} {found : List R} {filter : R → Bool} {assign : R → R} {next : ℕ → Prog R C E A}
    (confined : (Prog.update filter assign next).Confined (w.territory tx)) (distinct : todo.Nodup)
    (pending : ∀ i ∈ todo, ∃ slot row, s.table[i]? = some slot ∧
      slot.visible tx = some row ∧ filter row = true)
    (agrees : (next (found.length + todo.length)).exec w.conflict
      (w.viewIn tx (Table.assignAt tx assign todo s.table)) = w.serial tx s.table)
    {action : Action} {table' : Table R} {status' : Status R C E A}
    (moved : Status.step w.conflict tx s.table (.scanning
      { todo := todo, found := found, filter := filter, assign := some assign
        resume := fun rows => next rows.length }) action = some (table', status')) :
    w.Inv (s.after tx table' status') ∧ w.Outcome s (s.after tx table' status') tx := by
  cases action with
  | crash =>
      obtain ⟨rfl, rfl⟩ := Prod.mk.inj (Option.some.inj moved)
      exact inv.crash
  | advance =>
      simp only [Status.step] at moved
      split at moved
      · next finished =>
          obtain ⟨rfl, rfl⟩ := Prod.mk.inj (Option.some.inj moved)
          subst finished
          rw [Table.assignAt_nil] at agrees
          exact inv.silent rfl
            (.inside inside entered (.running (Function.update_self ..) (confined.2 _) agrees))
      · cases moved
  | visit i =>
      simp only [Status.step, Scan.visit] at moved
      split at moved
      · next member =>
          obtain ⟨slot, row, at_i, visible, accepted⟩ := pending i member
          simp only [at_i] at moved
          split at moved
          · next free =>
              simp only [visible, if_pos accepted, Slot.touch, Option.map_some] at moved
              obtain ⟨rfl, rfl⟩ := Prod.mk.inj (Option.some.inj moved)
              obtain ⟨part, part', guard', unique'⟩ :
                  w.part row = w.key tx ∧ w.part (assign row) = w.part row ∧
                    w.guard (assign row) = w.guard row ∧
                      w.conflict (assign row) = w.conflict row := confined.1 row accepted
              have touches := touches_write inv.table at_i free
                (Slot.mem_versions_of_visible visible) part part' guard' unique'
              have at_i' : (s.table.set i (slot.write tx (assign row)))[i]? =
                  some (slot.write tx (assign row)) :=
                List.getElem?_set_self (List.getElem?_eq_some_iff.mp at_i).1
              have inside' : w.Inside (s.table.set i (slot.write tx (assign row))) tx := by
                obtain ⟨j, slot', version, at_j, owned, memberVersion, guard, partVersion⟩ := inside
                by_cases same : i = j
                · subst same
                  rw [at_i] at at_j
                  cases at_j
                  obtain ⟨-, guardRow⟩ := inv.table.coherent i slot version row at_i memberVersion
                    (Slot.mem_versions_of_visible visible)
                  exact ⟨i, _, assign row, at_i', rfl,
                    Slot.mem_versions_of_visible Slot.visible_write_self,
                    by rw [guard', ← guardRow, guard], part'.trans part⟩
                · exact ⟨j, slot', version, by rw [List.getElem?_set_ne same, at_j], owned,
                    memberVersion, guard, partVersion⟩
              have rows : ∀ key, w.committedIn key (s.table.set i (slot.write tx (assign row))) =
                  w.committedIn key s.table := by
                intro key
                rw [committedIn, committedIn, touches.committedRows at_i]
              refine ⟨inv.of_frame (touches.frame at_i)
                (.inr (inv.table.alone_of_inside inside))
                (touches.tableInv inv.table at_i inside') (.inside inside' entered ?_), .quiet rows ?_⟩
              · refine @Working.updating _ _ _ _ _ _ w _ _ _ _ filter assign next
                  (Function.update_self ..) confined (distinct.erase i) ?_ ?_
                · intro j memberJ
                  obtain ⟨different, memberJ⟩ := distinct.mem_erase_iff.mp memberJ
                  show ∃ slot row, (s.table.set i _)[j]? = some slot ∧ _
                  rw [List.getElem?_set_ne (Ne.symm different)]
                  exact pending j memberJ
                · have count : (found ++ [row]).length + (todo.erase i).length =
                      found.length + todo.length := by
                    have positive := List.length_pos_of_mem member
                    rw [List.length_append, List.length_singleton, List.length_erase_of_mem member]
                    omega
                  show (next _).exec w.conflict (w.viewIn tx (Table.assignAt tx assign (todo.erase i)
                    (s.table.set i (slot.write tx (assign row))))) =
                      w.serial tx (s.table.set i (slot.write tx (assign row)))
                  rw [count, Table.assignAt_erase distinct member at_i visible, agrees, serial,
                    serial, rows]
              · show (Function.update s.status tx _ tx).isOpen = true
                rw [Function.update_self]
                rfl
          · cases moved
      · cases moved

/-! ## The step theorem -/

/-- **Every step of every interleaving refines atomic execution.** -/
theorem Inv.step (guarded : w.Guarded) (inv : w.Inv s) {action : Action}
    (stepped : s.step w.conflict (tx, action) = some s') : w.Inv s' ∧ w.Outcome s s' tx := by
  obtain ⟨table', status', moved, rfl⟩ := Sys.step_eq_some_iff.mp stepped
  cases inv.phase tx with
  | fresh status outside vacant =>
      rcases guarded.entry tx with ⟨filter, next, locks⟩ | ⟨row, next, creates⟩ | terminal
      · rw [status, locks.body] at moved
        cases action with
        | advance =>
            obtain ⟨rfl, rfl⟩ := Prod.mk.inj (Option.some.inj moved)
            exact inv.silent rfl (inv.step_lock locks outside)
        | visit position => cases moved
        | crash =>
            obtain ⟨rfl, rfl⟩ := Prod.mk.inj (Option.some.inj moved)
            exact inv.crash
      · rw [status, creates.body] at moved
        exact inv.step_create guarded creates (vacant row next creates.body) outside moved
      · rw [status] at moved
        exact inv.step_idle (.refused terminal) outside moved
  | @waiting filter next todo locks status outside target =>
      rw [status] at moved
      cases action with
      | crash =>
          obtain ⟨rfl, rfl⟩ := Prod.mk.inj (Option.some.inj moved)
          exact inv.crash
      | advance =>
          simp only [Status.step] at moved
          split at moved
          · next finished =>
              obtain ⟨rfl, rfl⟩ := Prod.mk.inj (Option.some.inj moved)
              rcases target with ⟨-, unguarded⟩ | ⟨i, slot, row, todo, -⟩
              · exact inv.silent rfl (.away locks (Function.update_self ..) outside unguarded)
              · rw [finished] at todo
                cases todo
          · cases moved
      | visit i =>
          rcases target with ⟨finished, -⟩ | ⟨j, slot, row, todoEq, at_j, committed, guard, part⟩
          · subst finished
            simp [Status.step, Scan.visit] at moved
          · subst todoEq
            simp only [Status.step, Scan.visit] at moved
            split at moved
            · next member =>
                obtain rfl := List.mem_singleton.mp member
                have accepted : filter row = true := (locks.filter_iff row).mpr ⟨guard, part⟩
                have visible : slot.visible tx = some row := by
                  rw [Slot.visible_of_owner_ne (inv.table.holds_nothing outside i slot at_j),
                    committed]
                simp only [at_j] at moved
                split at moved
                · next free =>
                    simp only [visible, if_pos accepted, Slot.touch, Option.map_some,
                      List.nil_append] at moved
                    obtain ⟨rfl, rfl⟩ := Prod.mk.inj (Option.some.inj moved)
                    exact inv.step_enter locks outside at_j free committed accepted (by simp)
                · cases moved
            · cases moved
  | away locks status outside unguarded =>
      rw [status] at moved
      exact inv.step_idle (.away locks unguarded) outside moved
  | inside inside entered working =>
      cases working with
      | running status confined agrees =>
          rw [status] at moved
          exact inv.step_running guarded inside entered confined agrees moved
      | locked status confined agrees =>
          rw [status] at moved
          cases action with
          | advance =>
              obtain ⟨rfl, rfl⟩ := Prod.mk.inj (Option.some.inj moved)
              exact inv.silent rfl
                (.inside inside entered (.running (Function.update_self ..) confined agrees))
          | visit position => simp [Status.step, Scan.visit] at moved
          | crash =>
              obtain ⟨rfl, rfl⟩ := Prod.mk.inj (Option.some.inj moved)
              exact inv.crash
      | updating status confined distinct pending agrees =>
          rw [status] at moved
          exact inv.step_updating inside entered confined distinct pending agrees moved
  | ended closed outside =>
      cases status : s.status tx with
      | running body =>
          rw [status] at closed
          cases closed
      | scanning scan =>
          rw [status] at closed
          cases closed
      | committed result =>
          rw [status] at moved
          cases action <;> cases moved
      | aborted error =>
          rw [status] at moved
          cases action <;> cases moved

/-- Only a body with statements gets into a partition. -/
theorem Inv.not_terminal (inv : w.Inv s) (inside : w.Inside s.table tx) :
    ¬ (w.bodies tx).Terminal := by
  cases inv.phase tx with
  | fresh status outside vacant => exact absurd inside outside
  | waiting locks status outside target => exact absurd inside outside
  | away locks status outside unguarded => exact absurd inside outside
  | inside inside entered working => exact entered
  | ended closed outside => exact absurd inside outside

/-- **A pending error** is that of an idle body, or the one that the whole body
raises on the committed rows. -/
theorem Inv.raising (inv : w.Inv s) {error : E} (status : s.status tx = .running (.raise error)) :
    w.Idle tx (.raise error) ∨
      w.Inside s.table tx ∧ (w.serial tx s.table).1 = .error error := by
  cases inv.phase tx with
  | fresh status' outside vacant =>
      have body : w.bodies tx = .raise error := by simpa [status] using status'.symm
      refine .inl (body ▸ .refused ?_)
      rw [body]
      exact .raise error
  | waiting locks status' outside target =>
      rw [status] at status'
      cases status'
  | @away filter next locks status' outside unguarded =>
      have body : next [] = .raise error := by simpa [status] using status'.symm
      exact .inl (body ▸ .away locks unguarded)
  | inside inside entered working =>
      refine .inr ⟨inside, ?_⟩
      cases working with
      | running status' confined agrees =>
          rw [status] at status'
          cases status'
          rw [← agrees]
          rfl
      | locked status' confined agrees =>
          rw [status] at status'
          cases status'
      | updating status' confined distinct pending agrees =>
          rw [status] at status'
          cases status'
  | ended closed outside =>
      rw [status] at closed
      cases closed

/-- What a step of transaction `tx` may do to a property of the system, as far
as the committed rows and the ended transactions are concerned. -/
structure Moves (w : Workload R C E A K) (s s' : Sys R C E A) (tx : TxId) : Prop where
  wasOpen : (s.status tx).isOpen = true
  outcome : w.Outcome s s' tx
  others : ∀ other, other ≠ tx → s'.status other = s.status other

/-- **Run rule for guarded workloads.**  What every such move preserves, every
run preserves. -/
theorem Inv.run_induction (guarded : w.Guarded) (inv : w.Inv s) {P : Sys R C E A → Prop}
    (preserved : ∀ {s s' : Sys R C E A} {tx : TxId}, w.Inv s → P s → w.Moves s s' tx → P s')
    {labels : List Label} (holds : P s) (ran : s.run w.conflict labels = some s') :
    w.Inv s' ∧ P s' := by
  refine Sys.run_induction (P := fun s => w.Inv s ∧ P s) ?_ ⟨inv, holds⟩ ran
  rintro s s' ⟨tx, action⟩ ⟨inv, holds⟩ stepped
  obtain ⟨inv', outcome⟩ := inv.step guarded stepped
  exact ⟨inv', preserved inv holds
    ⟨Sys.isOpen_of_step stepped, outcome, fun other different => Sys.status_of_ne stepped different⟩⟩

end Workload

end ReadCommitted
