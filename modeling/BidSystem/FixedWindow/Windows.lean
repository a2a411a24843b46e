import Mathlib.Algebra.Order.Group.Defs
import Mathlib.Data.List.Basic
import Mathlib.Order.Basic
import Mathlib.Tactic.Ring.RingNF
import Mathlib.Tactic.Abel

/-!
# Fixed-window counting

A counter of events that starts again at one when its window is over.  A window
is opened by its first event and lasts a fixed time from then on, whatever
happens in it.

* `Follows` — the events of a counter, from a given state on.
* `windows` — the events cut before every count of one.
* `Follows.windows` — every window counts its events from one and holds events
  of its own time only, and the windows do not overlap.
* `Follows.length_accepted_le` — any half-open interval as long as a window holds at most
  twice `capacity` events counted up to `capacity`.

Events are of any type, with a time and a count.
-/

namespace FixedWindow

variable {E T : Type*} [AddCommGroup T] [LinearOrder T] [IsOrderedAddMonoid T]

/-- The state of a counter: when its window was opened, and the last count. -/
structure Window (T : Type*) where
  opened : T
  count : ℕ

variable (time : E → T) (count : E → ℕ) (length : T)

/-- The events of a counter from a state on. -/
inductive Follows : Option (Window T) → List E → Prop
  | nil {state : Option (Window T)} : Follows state []
  | opens {state : Option (Window T)} {event : E} {events : List E}
      (expired : ∀ window ∈ state, window.opened + length ≤ time event)
      (first : count event = 1) (rest : Follows (some ⟨time event, 1⟩) events) :
      Follows state (event :: events)
  | counts {window : Window T} {event : E} {events : List E}
      (after : window.opened ≤ time event) (before : time event < window.opened + length)
      (next : count event = window.count + 1)
      (rest : Follows (some ⟨window.opened, window.count + 1⟩) events) :
      Follows (some window) (event :: events)

/-- The windows of the events that come after those of a first window. -/
def windowsFrom (current : List E) : List E → List (List E)
  | [] => [current]
  | event :: events =>
      if count event = 1 then current :: windowsFrom [event] events
      else windowsFrom (current ++ [event]) events

/-- The events cut before every count of one. -/
def windows : List E → List (List E)
  | [] => []
  | event :: events => windowsFrom count [event] events

/-- The events of one window: from its first event on, counted from one. -/
structure IsWindow (opened : T) (events : List E) : Prop where
  opener : events.head?.map time = some opened
  within : ∀ event ∈ events, opened ≤ time event ∧ time event < opened + length
  counted : events.map count = List.range' 1 events.length

/-- A window that is over when the next one opens. -/
def Separated (earlier later : List E) : Prop :=
  ∀ first ∈ earlier.head?, ∀ event ∈ later, time first + length ≤ time event

variable {time count length} {state : Option (Window T)} {events : List E}

/-! ## The windows of a counter -/

theorem flatten_windowsFrom {current : List E} :
    (windowsFrom count current events).flatten = current ++ events := by
  induction events generalizing current with
  | nil => simp [windowsFrom]
  | cons event events ih =>
      rw [windowsFrom]
      split_ifs
      · rw [List.flatten_cons, ih]
        rfl
      · rw [ih, List.append_assoc]
        rfl

/-- Cutting loses no event. -/
theorem flatten_windows : (windows count events).flatten = events := by
  cases events with
  | nil => rfl
  | cons event events => exact flatten_windowsFrom

theorem isWindow_singleton {event : E} (positive : 0 < length) (first : count event = 1) :
    IsWindow time count length (time event) [event] := by
  refine ⟨rfl, fun other member => ?_, ?_⟩
  · rw [List.mem_singleton.mp member]
    exact ⟨le_rfl, lt_add_of_pos_right _ positive⟩
  · rw [List.map_singleton, first]
    rfl

omit [IsOrderedAddMonoid T] in
theorem IsWindow.snoc {opened : T} {current : List E} {event : E}
    (window : IsWindow time count length opened current) (after : opened ≤ time event)
    (before : time event < opened + length) (next : count event = current.length + 1) :
    IsWindow time count length opened (current ++ [event]) := by
  refine ⟨?_, fun other member => ?_, ?_⟩
  · have nonempty : current ≠ [] := by
      rintro rfl
      cases window.opener
    rw [List.head?_append_of_ne_nil _ nonempty]
    exact window.opener
  · rcases List.mem_append.mp member with old | new
    · exact window.within other old
    · rw [List.mem_singleton.mp new]
      exact ⟨after, before⟩
  · rw [List.map_append, window.counted, List.length_append, List.length_singleton,
      List.range'_concat, List.map_singleton, next, one_mul, add_comm]

/-- What the windows after a state are.  The current window has the events so
far; the state is the one after its last event. -/
theorem Follows.windowsFrom (positive : 0 < length) {opened : T} {current : List E}
    (window : IsWindow time count length opened current)
    (follows : Follows time count length (some ⟨opened, current.length⟩) events) :
    (∀ events' ∈ windowsFrom count current events,
        ∃ opened, IsWindow time count length opened events') ∧
      (windowsFrom count current events).Pairwise (Separated time length) ∧
        ∀ event ∈ events, opened ≤ time event := by
  induction events generalizing opened current with
  | nil =>
      refine ⟨fun events' member => ⟨opened, ?_⟩, List.pairwise_singleton _ _, nofun⟩
      rw [List.mem_singleton.mp member]
      exact window
  | cons event events ih =>
      cases follows with
      | opens expired first rest =>
          have ended : opened + length ≤ time event := expired _ rfl
          obtain ⟨all, separated, later⟩ := ih (isWindow_singleton positive first) rest
          rw [FixedWindow.windowsFrom, if_pos first]
          have afterEvent : ∀ other ∈ event :: events, time event ≤ time other :=
            List.forall_mem_cons.mpr ⟨le_rfl, later⟩
          refine ⟨List.forall_mem_cons.mpr ⟨⟨opened, window⟩, all⟩,
            List.pairwise_cons.mpr ⟨fun events' member => ?_, separated⟩, fun other member => ?_⟩
          · intro opener isOpener other inside
            have isOpened : time opener = opened := by
              have opens := window.opener
              rw [Option.mem_def.mp isOpener] at opens
              exact Option.some.inj opens
            have among : other ∈ event :: events := by
              have noneLost : (FixedWindow.windowsFrom count [event] events).flatten = [event] ++ events :=
                flatten_windowsFrom
              rw [← List.singleton_append, ← noneLost]
              exact List.mem_flatten_of_mem member inside
            rw [isOpened]
            exact ended.trans (afterEvent other among)
          · exact (le_of_lt (lt_of_lt_of_le (lt_add_of_pos_right _ positive) ended)).trans
              (afterEvent other member)
      | counts after before next rest =>
          have notFirst : count event ≠ 1 := by
            rw [next]
            have nonempty : current ≠ [] := by
              rintro rfl
              cases window.opener
            have := List.length_pos_of_ne_nil nonempty
            dsimp only
            omega
          rw [FixedWindow.windowsFrom, if_neg notFirst]
          have longer : (current ++ [event]).length = current.length + 1 := by simp
          rw [← longer] at rest
          obtain ⟨all, separated, later⟩ := ih (window.snoc after before next) rest
          exact ⟨all, separated, List.forall_mem_cons.mpr ⟨after, later⟩⟩

/-- **The windows of a counter**: each counts its events from one, holds only
events of its own time, and is over when the next one opens. -/
theorem Follows.windows (positive : 0 < length) (follows : Follows time count length none events) :
    (∀ events' ∈ windows count events, ∃ opened, IsWindow time count length opened events') ∧
      (windows count events).Pairwise (Separated time length) := by
  cases follows with
  | nil => exact ⟨nofun, .nil⟩
  | opens expired first rest =>
      obtain ⟨all, separated, -⟩ :=
        Follows.windowsFrom positive (isWindow_singleton positive first) rest
      exact ⟨all, separated⟩

/-! ## Counting up to a capacity -/

/-- The events counted up to a capacity are the first ones. -/
theorem filter_count_le {first : ℕ} (capacity : ℕ)
    (counted : events.map count = List.range' first events.length) :
    events.filter (fun event => count event < first + capacity) = events.take capacity := by
  induction events generalizing first capacity with
  | nil => simp
  | cons event events ih =>
      rw [List.map_cons, List.length_cons, List.range'_succ, List.cons.injEq] at counted
      obtain ⟨isFirst, counted⟩ := counted
      cases capacity with
      | zero =>
          refine List.filter_eq_nil_iff.mpr fun other member => ?_
          have inRange : count other ∈ List.range' first (events.length + 1) := by
            rw [List.range'_succ, ← counted, ← isFirst, ← List.map_cons]
            exact List.mem_map_of_mem member
          have := (List.mem_range'_1.mp inRange).1
          simp only [decide_eq_true_eq]
          omega
      | succ capacity =>
          have next := ih capacity counted
          rw [show first + 1 + capacity = first + (capacity + 1) by omega] at next
          rw [List.filter_cons_of_pos (by simp only [decide_eq_true_eq]; omega), next,
            List.take_succ_cons]

omit [IsOrderedAddMonoid T] in
/-- **In a window the events counted up to the capacity are the first `capacity` ones.** -/
theorem IsWindow.filter_count_le {opened : T} (window : IsWindow time count length opened events)
    (capacity : ℕ) :
    events.filter (fun event => count event ≤ capacity) = events.take capacity := by
  rw [← FixedWindow.filter_count_le capacity window.counted]
  refine List.filter_congr fun event _ => ?_
  rw [decide_eq_decide]
  omega

/-! ## Intervals as long as a window -/

variable (time count length)

/-- The events of an interval that are counted up to a capacity. -/
def accepted (capacity : ℕ) (start : T) (events : List E) : List E :=
  events.filter fun event =>
    start ≤ time event ∧ time event < start + length ∧ count event ≤ capacity

variable {time count length}

omit [IsOrderedAddMonoid T] in
/-- A window has at most `capacity` such events. -/
theorem IsWindow.length_accepted_le {opened : T}
    (window : IsWindow time count length opened events) (start : T) (capacity : ℕ) :
    (accepted time count length capacity start events).length ≤ capacity := by
  have sublist : (accepted time count length capacity start events).Sublist
      (events.filter fun event => count event ≤ capacity) := by
    refine List.monotone_filter_right _ fun event => ?_
    simp only [decide_eq_true_eq]
    exact fun inside => inside.2.2
  rw [window.filter_count_le] at sublist
  exact sublist.length_le.trans (List.length_take_le _ _)

omit [IsOrderedAddMonoid T] in
/-- Windows that open after the interval have none. -/
theorem accepted_of_late {start : T} {capacity : ℕ} {later : List (List E)}
    (late : ∀ events ∈ later, ∀ event ∈ events, start + length ≤ time event) :
    accepted time count length capacity start later.flatten = [] := by
  refine List.filter_eq_nil_iff.mpr fun event member => ?_
  obtain ⟨events, among, inside⟩ := List.mem_flatten.mp member
  have after := late events among event inside
  simp only [decide_eq_true_eq]
  rintro ⟨-, before, -⟩
  exact absurd before (not_lt.mpr after)

/-- **At most two windows reach into an interval that is as long as they are.** -/
theorem length_accepted_flatten_le (start : T) (capacity : ℕ) {cut : List (List E)}
    (all : ∀ events ∈ cut, ∃ opened, IsWindow time count length opened events)
    (separated : cut.Pairwise (Separated time length)) :
    (accepted time count length capacity start cut.flatten).length ≤ 2 * capacity := by
  have accepted_append : ∀ front back : List E,
      accepted time count length capacity start (front ++ back) =
        accepted time count length capacity start front ++
          accepted time count length capacity start back := fun _ _ => List.filter_append ..
  induction cut with
  | nil => exact Nat.zero_le _
  | cons window cut ih =>
      obtain ⟨isWindow, all⟩ := List.forall_mem_cons.mp all
      obtain ⟨opened, isWindow⟩ := isWindow
      obtain ⟨apart, separated⟩ := List.pairwise_cons.mp separated
      rw [List.flatten_cons, accepted_append, List.length_append]
      rcases reached : accepted time count length capacity start window with _ | ⟨event, others⟩
      · rw [List.length_nil, Nat.zero_add]
        exact ih all separated
      · rw [← reached]
        have inside : event ∈ accepted time count length capacity start window := by
          rw [reached]
          exact List.mem_cons_self
        obtain ⟨member, bounds⟩ := List.mem_filter.mp inside
        obtain ⟨afterStart, -, -⟩ := of_decide_eq_true bounds
        have ofFirst := isWindow.length_accepted_le start capacity
        cases cut with
        | nil =>
            simp only [List.flatten_nil, accepted, List.filter_nil, List.length_nil]
            simp only [accepted] at ofFirst
            omega
        | cons next cut =>
            obtain ⟨isNext, all⟩ := List.forall_mem_cons.mp all
            obtain ⟨openedNext, isNext⟩ := isNext
            obtain ⟨apartNext, -⟩ := List.pairwise_cons.mp separated
            have ofNext := isNext.length_accepted_le start capacity
            -- The window after the next one opens more than `length` after `event`.
            have late : ∀ events ∈ cut, ∀ other ∈ events, start + length ≤ time other := by
              intro events among other inside'
              obtain ⟨opener, isOpener, opensAt⟩ := Option.map_eq_some_iff.mp isWindow.opener
              obtain ⟨openerNext, isOpenerNext, opensNextAt⟩ :=
                Option.map_eq_some_iff.mp isNext.opener
              have nextMember : openerNext ∈ next := List.mem_of_head? isOpenerNext
              have firstEnds := apart next List.mem_cons_self opener isOpener openerNext nextMember
              have nextEnds := apartNext events among openerNext isOpenerNext other inside'
              have ofWindow := (isWindow.within event member).2
              rw [opensAt] at firstEnds
              calc start + length ≤ time event + length := by gcongr
                _ ≤ time openerNext + length := by
                    gcongr
                    exact (ofWindow.trans_le firstEnds).le
                _ ≤ time other := nextEnds
            rw [List.flatten_cons, accepted_append, accepted_of_late late, List.append_nil]
            omega

/-- **Any half-open interval as long as a window** holds at most `2 * capacity`
events counted up to `capacity`. -/
theorem Follows.length_accepted_le (positive : 0 < length)
    (follows : Follows time count length none events) (start : T) (capacity : ℕ) :
    (accepted time count length capacity start events).length ≤ 2 * capacity := by
  obtain ⟨all, separated⟩ := follows.windows positive
  have bound := length_accepted_flatten_le start capacity all separated
  rw [flatten_windows] at bound
  exact bound

end FixedWindow
