import BidSystem.Identity.AccessRuns
import BidSystem.ReadCommitted.Law
import BidSystem.ReadCommitted.LostUpdate

/-!
# Logins that rehash one password

Any number of logins on one account run at once, in any interleaving of their statements.  A
login whose verifier asks for a rehash writes the successor of the password version that its
first statement has read; that statement takes no lock, and the `UPDATE` sets constants.

A version log notes when a login reads the account and when it commits a new version.

* `loginTransaction_reads` — a login reads the account and then writes a successor at most.
* `Inv` — the account's row holds the version that was written last.
* `Inv.step` — every step of every login keeps that.
* `noLostRehash_iff` — no rehash is lost exactly if each one commits before another does
  since it has read.
-/

namespace BidSystem.Identity

open ReadCommitted

/-- The logins and the shared table. -/
abbrev LoginSys := Sys IdentityRow String PyError (AuthenticatedIdentity × IdentityRole)

/-- Logins on one account, each with a verifier of its own. -/
structure RehashRace where
  database : List IdentityRow
  userIds : ((identityAccounts.rows database).map IdentityAccountModel.userId).Nodup
  loginIdentifiers :
    ((identityAccounts.rows database).map IdentityAccountModel.loginIdentifier).Nodup
  account : IdentityAccountModel
  stored : account ∈ identityAccounts.rows database
  services : TxId → LoginServices
  command : TxId → AuthenticateLocalAccountCommand
  sameLogin : ∀ tx,
    (services tx).casefold (strip (command tx).loginIdentifier) = account.loginIdentifier

/-! ## What a login may do -/

/-- After a login has read a version it writes the successor to that account, if anything. -/
def rehashLaw (userId : String) (version : ℤ) :
    Law IdentityRow (AuthenticatedIdentity × IdentityRole) where
  updates filter assign := ∀ row, filter row = true → ∃ old,
    row = identityAccounts.make old ∧ old.userId = userId ∧
      ∃ passwordHash, assign row = identityAccounts.make { old with
        passwordHash := passwordHash
        passwordVersion := version + 1 }
  inserts row := identityAccounts.read row = none
  returns _ := True

theorem flushNew_obeys {law : Law IdentityRow (AuthenticatedIdentity × IdentityRole)}
    (inserts : ∀ model, law.inserts (refreshSessions.make model))
    {next : Unit → IdentityProg (AuthenticatedIdentity × IdentityRole)}
    (rest : (next ()).Obeys law) (models : List RefreshSessionModel) :
    (flushNew models >>= next).Obeys law := by
  induction models with
  | nil => exact rest
  | cons model models ih =>
      refine ⟨inserts model, fun violated => ?_⟩
      cases violated with
      | none => exact ih
      | some constraint => exact trivial

/-- What a login does once it has read an account. -/
theorem updatePassword_obeys (account : LocalAccount) (updatedHash : Option String)
    {next : Unit → IdentityProg (AuthenticatedIdentity × IdentityRole)}
    (rest : (next ()).Obeys (rehashLaw account.userId account.passwordVersion)) :
    (updatePassword account updatedHash >>= next).Obeys
      (rehashLaw account.userId account.passwordVersion) := by
  cases updatedHash with
  | none => exact rest
  | some updatedHash =>
      rw [updatePassword]
      cases replaced : account.replacePassword updatedHash with
      | error error => exact trivial
      | ok changed =>
          have fields := LocalAccount.toModel_of_ofModel replaced
          refine ⟨fun row accepted => ?_, fun _ => rest⟩
          obtain ⟨old, rfl, same⟩ := identityAccounts.on_iff.1 accepted
          rw [fields] at same
          refine ⟨old, rfl, by simpa using same, changed.passwordHash, ?_⟩
          rw [Relation.set_make, fields]

/-- A login is the read of the account and what follows. -/
theorem loginTransaction_eq (services : LoginServices)
    (command : AuthenticateLocalAccountCommand) : ∃ rest,
    loginTransaction services command =
        getAccountByLogin (services.casefold (strip command.loginIdentifier)) >>= rest ∧
      ∀ account : LocalAccount,
        (rest (some account)).Obeys (rehashLaw account.userId account.passwordVersion) := by
  refine ⟨_, by rw [loginTransaction, authenticateLocalAccount, checkCredentials,
    Prog.bind_assoc, Prog.bind_assoc], fun account => ?_⟩
  dsimp only
  split
  · exact trivial
  rw [Prog.bind_assoc]
  refine (getMembership_readOnly _ _).obeys fun membership => ?_
  cases membership with
  | none => exact trivial
  | some membership =>
      dsimp only
      split
      · exact trivial
      rw [Prog.pure_eq, Prog.bind_done, Prog.bind_assoc]
      refine updatePassword_obeys account _ ?_
      rw [Prog.bind_assoc]
      cases (command.issueCall account.userId membership.tenantId).session with
      | error error => exact trivial
      | ok session =>
          rw [Prog.bind_ofExcept_ok, Prog.pure_eq, Prog.bind_done]
          dsimp only
          cases singleIdentityRole membership.roles with
          | error error => exact trivial
          | ok role =>
              rw [Prog.bind_ofExcept_ok]
              refine flushNew_obeys (fun _ => rfl) ?_ _
              exact trivial

/-- Reading an object is a `SELECT`, and the only row found is built. -/
theorem readOne_bind {α β γ : Type} (table : Relation IdentityRow α) (filter : α → Bool)
    (build : α → Except PyError β) (rest : Option β → IdentityProg γ) : ∃ next,
    readOne table filter build >>= rest = .select (table.on filter) next ∧
      ∀ rows model, table.rows rows = [model] →
        next rows = Prog.ofExcept (build model) >>= fun found => rest (some found) := by
  refine ⟨_, rfl, fun rows model read => ?_⟩
  dsimp only
  rw [read]
  show Prog.bind (Prog.bind (Prog.ofExcept (build model)) fun found => .done (some found)) rest = _
  cases build model <;> rfl

/-- **A login reads the account and then writes a successor at most.** -/
theorem loginTransaction_reads (services : LoginServices)
    (command : AuthenticateLocalAccountCommand) : ∃ next,
    loginTransaction services command = .select (identityAccounts.on fun model =>
        model.loginIdentifier == services.casefold (strip command.loginIdentifier)) next ∧
      ∀ rows model, identityAccounts.rows rows = [model] →
        (next rows).Obeys (rehashLaw model.userId model.passwordVersion) := by
  obtain ⟨rest, same, lawful⟩ := loginTransaction_eq services command
  obtain ⟨next, selects, reads⟩ := readOne_bind identityAccounts
    (fun model => model.loginIdentifier == services.casefold (strip command.loginIdentifier))
    LocalAccount.ofModel rest
  refine ⟨next, same.trans selects, fun rows model read => ?_⟩
  rw [reads rows model read]
  cases built : LocalAccount.ofModel model with
  | error error => exact trivial
  | ok account =>
      rw [← LocalAccount.toModel_of_ofModel built]
      exact lawful account

namespace RehashRace

variable (race : RehashRace)

/-! ## What is noted of a run -/

/-- All logins are about to start. -/
def start : LoginSys :=
  Sys.start race.database fun tx => loginTransaction (race.services tx) (race.command tx)

/-- The password version of the account, if the row is its row. -/
def versionOf (row : IdentityRow) : Option ℤ :=
  ((identityAccounts.read row).filter fun model => model.userId == race.account.userId).map
    IdentityAccountModel.passwordVersion

/-- The version of the account that a login has written and not committed. -/
def written (tx : TxId) (table : Table IdentityRow) : Option ℤ :=
  table.findSome? fun slot => (slot.uncommitted tx).bind race.versionOf

/-- The body has returned. -/
def returned {A : Type} : Status IdentityRow String PyError A → Bool
  | .running (.done _) => true
  | _ => false

/-- The first statement of a login reads the account; its commit publishes what it has
written. -/
def observe (s : LoginSys) (log : List (VersionEvent TxId)) (label : Label) :
    List (VersionEvent TxId) :=
  if label.2 ≠ .advance then log
  else if .read label.1 ∉ log then .read label.1 :: log
  else if returned (s.status label.1) then
    match race.written label.1 s.table with
    | some version => .wrote label.1 version :: log
    | none => log
  else log

/-- What is noted of a run. -/
def history (labels : List Label) : List (VersionEvent TxId) :=
  race.start.record identityConflict race.observe [] labels

/-- The committed versions of the account's rows. -/
def storedVersions (s : LoginSys) : List ℤ :=
  ((identityAccounts.rows s.table.committedRows).filter fun model =>
    model.userId == race.account.userId).map IdentityAccountModel.passwordVersion

/-! ## The invariant -/

/-- A row of the account. -/
structure IsAccount (model : IdentityAccountModel) : Prop where
  userId : model.userId = race.account.userId
  loginIdentifier : model.loginIdentifier = race.account.loginIdentifier

/-- The account's row is at a position, and no other row has one of its keys. -/
structure Located (position : ℕ) (version : ℤ) (table : Table IdentityRow) : Prop where
  here : ∃ slot model, table[position]? = some slot ∧
    slot.committed = some (identityAccounts.make model) ∧ race.IsAccount model ∧
      model.passwordVersion = version
  elsewhere : ∀ (i : ℕ) (slot : Slot IdentityRow) (model : IdentityAccountModel),
    table[i]? = some slot → slot.committed = some (identityAccounts.make model) → i ≠ position →
      model.userId ≠ race.account.userId ∧ model.loginIdentifier ≠ race.account.loginIdentifier

/-- What a login has written: a version of the account's row, and rows of other tables. -/
def Writes (position : ℕ) (tx : TxId) (version : ℤ) (table : Table IdentityRow) : Prop :=
  ∀ (i : ℕ) (slot : Slot IdentityRow) (row : IdentityRow), table[i]? = some slot →
    slot.uncommitted tx = some row →
      i = position ∧ (∃ model, row = identityAccounts.make model ∧ race.IsAccount model ∧
        model.passwordVersion = version) ∨
      i ≠ position ∧ identityAccounts.read row = none

/-- A login without uncommitted rows. -/
def Clean (tx : TxId) (table : Table IdentityRow) : Prop :=
  ∀ (i : ℕ) (slot : Slot IdentityRow), table[i]? = some slot → slot.uncommitted tx = none

/-- Where a login stands. -/
inductive Phase (position : ℕ) (log : List (VersionEvent TxId)) (s : LoginSys) (tx : TxId) : Prop
  | waiting (status : s.status tx =
        .running (loginTransaction (race.services tx) (race.command tx)))
      (unread : .read tx ∉ log)
      (clean : Clean tx s.table)
  | reading (read : .read tx ∈ log)
      (obeys : (s.status tx).Obeys (rehashLaw race.account.userId
        (VersionLog.seen race.account.passwordVersion tx log)))
      (writes : race.Writes position tx
        (VersionLog.seen race.account.passwordVersion tx log + 1) s.table)
  | closed (closed : (s.status tx).isOpen = false)

/-- **The invariant**: the account's row holds the version that was written last. -/
structure Inv (position : ℕ) (s : LoginSys) (log : List (VersionEvent TxId)) : Prop where
  located : race.Located position (VersionLog.current race.account.passwordVersion log) s.table
  increments : VersionLog.Increments race.account.passwordVersion log
  phase : ∀ tx, race.Phase position log s tx

variable {race}

theorem inv_start : ∃ position, race.Inv position race.start [] := by
  obtain ⟨position, at_position⟩ :=
    List.mem_iff_getElem?.1 (identityAccounts.mem_rows.1 race.stored)
  have settled : ∀ {i : ℕ} {slot : Slot IdentityRow}, race.start.table[i]? = some slot →
      ∃ row, race.database[i]? = some row ∧ slot = Slot.settled row := by
    intro i slot at_i
    obtain ⟨row, at_row, same⟩ := Option.map_eq_some_iff.1 (List.getElem?_map.symm.trans at_i)
    exact ⟨row, at_row, same.symm⟩
  refine ⟨position, ⟨?_, fun i slot model at_i committed other => ?_⟩, trivial, fun tx => ?_⟩
  · refine ⟨_, race.account, ?_, Slot.committed_settled, ⟨rfl, rfl⟩, rfl⟩
    exact List.getElem?_map.trans (by rw [at_position]; rfl)
  · obtain ⟨row, at_row, rfl⟩ := settled at_i
    obtain rfl := Option.some.inj committed
    constructor
    · intro same
      exact other (identityAccounts.index_unique race.userIds at_row at_position same)
    · intro same
      exact other (identityAccounts.index_unique race.loginIdentifiers at_row at_position same)
  · refine .waiting rfl List.not_mem_nil fun i slot at_i => ?_
    obtain ⟨row, _, rfl⟩ := settled at_i
    rfl

/-! ## Steps -/

section Steps

variable {position : ℕ} {version other : ℤ} {tx : TxId}
  {law : Law IdentityRow (AuthenticatedIdentity × IdentityRole)}
  {status status' : Status IdentityRow String PyError (AuthenticatedIdentity × IdentityRole)}
  {action : Action} {table table' : Table IdentityRow}

/-- Only a commit moves or changes the account's row. -/
theorem Located.of_unfinished (located : race.Located position version table)
    (moved : Table.Moved law tx status action status' table table')
    (unfinished : ∀ result, status = .running (.done result) → action ≠ .advance) :
    race.Located position version table' := by
  obtain ⟨slot, model, at_position, committed, isAccount, isVersion⟩ := located.here
  obtain ⟨slot', at_position', same⟩ := moved.keeps_committed unfinished at_position
  refine ⟨⟨slot', model, at_position', same.trans committed, isAccount, isVersion⟩, ?_⟩
  intro i slot' model at_i committed other
  obtain ⟨slot, at_slot, before | ⟨_, result, returned, commits, _⟩⟩ :=
    moved.committed_before at_i committed
  · exact located.elsewhere i slot model at_slot before other
  · exact absurd commits (unfinished result returned)

/-- A reader of the table that looks for one of the account's keys finds the account's row. -/
theorem Located.filterMap_eq (located : race.Located position version table)
    (view : Slot IdentityRow → Option IdentityRow) (wanted : IdentityAccountModel → Bool)
    (sees : ∀ (i : ℕ) (slot : Slot IdentityRow), table[i]? = some slot →
      view slot = slot.committed)
    (finds : ∀ model, race.IsAccount model → wanted model = true)
    (passes : ∀ model : IdentityAccountModel, model.userId ≠ race.account.userId →
      model.loginIdentifier ≠ race.account.loginIdentifier → wanted model = false) :
    ∃ model, race.IsAccount model ∧ model.passwordVersion = version ∧
      (identityAccounts.rows (table.filterMap view)).filter wanted = [model] := by
  obtain ⟨slot, model, at_position, committed, isAccount, isVersion⟩ := located.here
  refine ⟨model, isAccount, isVersion, ?_⟩
  rw [Relation.rows, List.filterMap_filterMap, List.filter_filterMap]
  have here : ((view slot).bind identityAccounts.read).filter wanted = some model := by
    rw [sees position slot at_position, committed, Option.bind_some, identityAccounts.read_make]
    simp [finds model isAccount]
  apply filterMap_eq_singleton at_position here
  intro i slot' at_i different
  rw [sees i slot' at_i]
  cases committed' : slot'.committed with
  | none => rfl
  | some row =>
      cases isRead : identityAccounts.read row with
      | none => simp [isRead]
      | some model' =>
          rw [identityAccounts.make_of_read row model' isRead] at committed'
          obtain ⟨user, login⟩ := located.elsewhere i slot' model' at_i committed' different
          simp [isRead, passes model' user login]

/-- What others have written stays. -/
theorem Writes.frame {mover : TxId} (writes : race.Writes position tx version table)
    (different : mover ≠ tx) (moved : Table.Moved law mover status action status' table table') :
    race.Writes position tx version table' :=
  fun i slot row at_i written =>
    writes i slot row (moved.uncommitted_before different at_i written) written

/-- **A login only writes the successor of what it has read.** -/
theorem Writes.step (writes : race.Writes position tx (version + 1) table)
    (located : race.Located position other table)
    (located' : race.Located position other table')
    (moved : Table.Moved (rehashLaw race.account.userId version) tx status action status' table
      table') : race.Writes position tx (version + 1) table' := by
  intro i slot' row at_i written
  rcases moved.uncommitted_cases at_i written with
    ⟨slot, at_slot, _, before⟩ |
    ⟨slot, found, filter, assign, at_slot, _, visible, accepted, lawful, rfl⟩ | ⟨absent, lawful⟩
  · exact writes i slot row at_slot before
  · obtain ⟨old, rfl, userId, passwordHash, assigned⟩ := lawful found accepted
    -- The row that was seen is the account's: its own version of it, or the committed one.
    have seen : i = position ∧ race.IsAccount old := by
      rw [Slot.visible_eq_or] at visible
      cases own : slot.uncommitted tx with
      | some row =>
          rw [own, Option.some_or] at visible
          obtain rfl := Option.some.inj visible
          rcases writes i slot _ at_slot own with ⟨here, model, same, isAccount, _⟩ | ⟨_, none⟩
          · cases same
            exact ⟨here, isAccount⟩
          · rw [identityAccounts.read_make] at none
            cases none
      | none =>
          rw [own, Option.none_or] at visible
          by_cases here : i = position
          · subst here
            obtain ⟨slot', model, at_slot', committed, isAccount, _⟩ := located.here
            rw [at_slot] at at_slot'
            cases at_slot'
            rw [visible] at committed
            cases committed
            exact ⟨rfl, isAccount⟩
          · exact absurd userId (located.elsewhere i slot old at_slot visible here).1
    exact .inl ⟨seen.1, _, assigned, ⟨seen.2.userId, seen.2.loginIdentifier⟩, rfl⟩
  · refine .inr ⟨?_, lawful⟩
    rintro rfl
    obtain ⟨slot, model, at_slot, committed, _⟩ := located'.here
    rw [at_i] at at_slot
    cases at_slot
    rw [absent] at committed
    cases committed

/-- What a login has written to the account is in the account's row. -/
theorem Writes.written (writes : race.Writes position tx version table)
    (located : race.Located position other table) :
    ∃ slot, table[position]? = some slot ∧
      (race.written tx table = none ∧ slot.uncommitted tx = none ∨
        race.written tx table = some version ∧ ∃ model,
          slot.uncommitted tx = some (identityAccounts.make model) ∧ race.IsAccount model ∧
            model.passwordVersion = version) := by
  obtain ⟨slot, _, at_position, _⟩ := located.here
  have ofAccount : ∀ model, race.IsAccount model →
      race.versionOf (identityAccounts.make model) = some model.passwordVersion := by
    intro model isAccount
    simp [versionOf, identityAccounts.read_make, isAccount.userId]
  refine ⟨slot, at_position, ?_⟩
  rcases found : race.written tx table with _ | seen
  · refine .inl ⟨rfl, ?_⟩
    have unwritten := List.findSome?_eq_none_iff.1 found slot (List.mem_of_getElem? at_position)
    cases own : slot.uncommitted tx with
    | none => rfl
    | some row =>
        rcases writes position slot row at_position own with ⟨_, model, rfl, isAccount, _⟩ |
          ⟨different, _⟩
        · rw [own, Option.bind_some, ofAccount model isAccount] at unwritten
          cases unwritten
        · exact absurd rfl different
  · right
    obtain ⟨slot', member, version'⟩ := List.exists_of_findSome?_eq_some found
    obtain ⟨i, at_i⟩ := List.mem_iff_getElem?.1 member
    obtain ⟨row, own, isVersion⟩ := Option.bind_eq_some_iff.1 version'
    rcases writes i slot' row at_i own with ⟨rfl, model, rfl, isAccount, same⟩ | ⟨_, none⟩
    · rw [at_position] at at_i
      cases at_i
      rw [ofAccount model isAccount, same] at isVersion
      exact ⟨isVersion.symm, model, own, isAccount, same⟩
    · simp [versionOf, none] at isVersion

/-- **A commit publishes what the login has written** to the account's row. -/
theorem Located.publish (located : race.Located position other table)
    (writes : race.Writes position tx version table) :
    race.Located position ((race.written tx table).getD other) (table.map (Slot.publish tx)) := by
  have published : ∀ {i : ℕ} {slot : Slot IdentityRow}, table[i]? = some slot →
      (table.map (Slot.publish tx))[i]? = some (slot.publish tx) ∧
        (slot.publish tx).committed = (slot.uncommitted tx).or slot.committed := by
    intro i slot at_i
    rw [List.getElem?_map, at_i, Slot.committed_publish, Slot.visible_eq_or]
    exact ⟨rfl, rfl⟩
  constructor
  · obtain ⟨slot, at_position, own⟩ := writes.written located
    obtain ⟨at_position', committed'⟩ := published at_position
    rcases own with ⟨none, unwritten⟩ | ⟨some, model, own, isAccount, isVersion⟩
    · obtain ⟨slot', model, at_slot', committed, isAccount, isVersion⟩ := located.here
      rw [at_position] at at_slot'
      cases at_slot'
      refine ⟨_, model, at_position', ?_, isAccount, ?_⟩
      · rw [committed', unwritten, Option.none_or, committed]
      · rw [none, Option.getD_none, isVersion]
    · refine ⟨_, model, at_position', ?_, isAccount, ?_⟩
      · rw [committed', own, Option.some_or]
      · rw [some, Option.getD_some, isVersion]
  · intro i slot' model at_i committed other
    rw [List.getElem?_map] at at_i
    obtain ⟨slot, at_slot, rfl⟩ := Option.map_eq_some_iff.1 at_i
    rw [(published at_slot).2] at committed
    cases own : slot.uncommitted tx with
    | none =>
        rw [own, Option.none_or] at committed
        exact located.elsewhere i slot model at_slot committed other
    | some row =>
        rw [own, Option.some_or] at committed
        cases committed
        rcases writes i slot _ at_slot own with ⟨here, _⟩ | ⟨_, none⟩
        · exact absurd here other
        · rw [identityAccounts.read_make] at none
          cases none

end Steps

/-! ### The log -/

section Observed

variable {position : ℕ} {s : LoginSys} {log : List (VersionEvent TxId)} {tx other : TxId}
  {action : Action}

/-- A step adds at most one event of the login that makes it. -/
theorem observe_cases (s : LoginSys) (log : List (VersionEvent TxId)) (label : Label) :
    race.observe s log label = log ∨ race.observe s log label = .read label.1 :: log ∨
      ∃ version, race.observe s log label = .wrote label.1 version :: log := by
  unfold observe
  split
  · exact .inl rfl
  · split
    · exact .inr (.inl rfl)
    · split
      · split
        · exact .inr (.inr ⟨_, rfl⟩)
        · exact .inl rfl
      · exact .inl rfl

/-- The events of a login change nothing that the others have seen. -/
theorem observe_of_ne {label : Label} (different : label.1 ≠ other) (initial : ℤ) :
    (.read other ∈ race.observe s log label ↔ .read other ∈ log) ∧
      VersionLog.seen initial other (race.observe s log label) =
        VersionLog.seen initial other log := by
  rcases observe_cases s log label with same | same | ⟨version, same⟩
  · rw [same]
    exact ⟨Iff.rfl, rfl⟩
  · rw [same]
    simp [VersionLog.seen, different, Ne.symm different]
  · rw [same]
    simp [VersionLog.seen]

/-- A login that has read the account adds nothing before it commits. -/
theorem observe_of_unfinished (read : .read tx ∈ log)
    (unfinished : ∀ result, s.status tx = .running (.done result) → action ≠ .advance) :
    race.observe s log (tx, action) = log := by
  unfold observe
  by_cases advances : action = .advance
  · have working : returned (s.status tx) = false := by
      cases status : s.status tx with
      | running body =>
          cases body with
          | done result => exact absurd advances (unfinished result status)
          | _ => rfl
      | _ => rfl
    simp [read, working]
  · simp [advances]

/-- A commit adds what the login has written. -/
theorem observe_commit {result : AuthenticatedIdentity × IdentityRole} (read : .read tx ∈ log)
    (status : s.status tx = .running (.done result)) :
    race.observe s log (tx, .advance) =
      ((race.written tx s.table).map (VersionEvent.wrote tx)).toList ++ log := by
  unfold observe
  cases race.written tx s.table <;> simp [read, status, returned]

end Observed

/-! ### Every step keeps the invariant -/

section Run

variable {position : ℕ} {s s' : LoginSys} {log : List (VersionEvent TxId)} {tx : TxId}
  {action : Action} {table' : Table IdentityRow}
  {status' : Status IdentityRow String PyError (AuthenticatedIdentity × IdentityRole)}

/-- The state after a step of a login. -/
def after (s : LoginSys) (tx : TxId) (table' : Table IdentityRow)
    (status' : Status IdentityRow String PyError (AuthenticatedIdentity × IdentityRole)) :
    LoginSys where
  table := table'
  status := Function.update s.status tx status'

@[simp] theorem after_table : (after s tx table' status').table = table' := rfl

@[simp] theorem after_status_self : (after s tx table' status').status tx = status' :=
  Function.update_self ..

/-- The others stand where they stood. -/
theorem Phase.frame {other : TxId} (phase : race.Phase position log s other)
    (different : tx ≠ other)
    (moved : Status.step identityConflict tx s.table (s.status tx) action = some (table', status')) :
    race.Phase position (race.observe s log (tx, action)) (after s tx table' status') other := by
  have lawful := ((s.status tx).obeys_anything.step moved).1
  have same : (after s tx table' status').status other = s.status other :=
    Function.update_of_ne (Ne.symm different) ..
  obtain ⟨reads, seen⟩ :=
    @observe_of_ne race s log other (tx, action) different race.account.passwordVersion
  cases phase with
  | waiting status unread clean =>
      refine .waiting (same.trans status) (fun read => unread (reads.1 read)) ?_
      intro i slot at_i
      cases written : slot.uncommitted other with
      | none => rfl
      | some row =>
          have before := clean i slot (lawful.uncommitted_before different at_i written)
          rw [before] at written
          cases written
  | reading read obeys writes =>
      refine .reading (reads.2 read) ?_ ?_
      · rwa [same, seen]
      · rw [seen]
        exact writes.frame different lawful
  | closed closed =>
      refine .closed ?_
      rwa [same]

/-- The first statement of a login reads the version that was written last. -/
theorem Inv.step_waiting (inv : race.Inv position s log)
    (status : s.status tx = .running (loginTransaction (race.services tx) (race.command tx)))
    (unread : .read tx ∉ log)
    (clean : Clean tx s.table)
    (moved : Status.step identityConflict tx s.table (s.status tx) action = some (table', status')) :
    race.Located position
        (VersionLog.current race.account.passwordVersion (race.observe s log (tx, action))) table' ∧
      VersionLog.Increments race.account.passwordVersion (race.observe s log (tx, action)) ∧
      race.Phase position (race.observe s log (tx, action)) (after s tx table' status') tx := by
  obtain ⟨next, selects, reads⟩ := loginTransaction_reads (race.services tx) (race.command tx)
  rw [race.sameLogin tx] at selects
  rw [status, selects] at moved
  cases action with
  | visit position => cases moved
  | crash =>
      have lawful : Table.Moved Law.anything tx (s.status tx) .crash
          (.aborted none : Status IdentityRow String PyError (AuthenticatedIdentity × IdentityRole))
          s.table (s.table.map (Slot.discard tx)) := .discarded rfl
      cases moved
      refine ⟨inv.located.of_unfinished lawful (fun _ _ => nofun), inv.increments, .closed ?_⟩
      rw [after_status_self]
      rfl
  | advance =>
      cases moved
      have noted : race.observe s log (tx, .advance) = .read tx :: log := by
        simp [observe, unread]
      rw [noted]
      refine ⟨inv.located, inv.increments, .reading List.mem_cons_self ?_ ?_⟩
      · -- The login finds the account's row, and nothing else.
        obtain ⟨model, isAccount, isVersion, found⟩ := inv.located.filterMap_eq (Slot.visible tx)
          (fun model => model.loginIdentifier == race.account.loginIdentifier)
          (fun i slot at_i => Slot.visible_of_clean (clean i slot at_i))
          (fun model isAccount => by simp [isAccount.loginIdentifier])
          (fun model _ login => by simpa using login)
        have rows : identityAccounts.rows ((Table.visibleRows tx s.table).filter
            (identityAccounts.on fun model =>
              model.loginIdentifier == race.account.loginIdentifier)) = [model] := by
          rw [identityAccounts.rows_filter]
          exact found
        have lawful := reads _ model rows
        rw [isAccount.userId, isVersion] at lawful
        simpa [VersionLog.seen, Status.Obeys] using lawful
      · intro i slot row at_i written
        rw [clean i slot at_i] at written
        cases written

/-- A login that has read the account writes the successor, or nothing. -/
theorem Inv.step_reading (inv : race.Inv position s log) (read : .read tx ∈ log)
    (obeys : (s.status tx).Obeys (rehashLaw race.account.userId
      (VersionLog.seen race.account.passwordVersion tx log)))
    (writes : race.Writes position tx
      (VersionLog.seen race.account.passwordVersion tx log + 1) s.table)
    (moved : Status.step identityConflict tx s.table (s.status tx) action = some (table', status')) :
    race.Located position
        (VersionLog.current race.account.passwordVersion (race.observe s log (tx, action))) table' ∧
      VersionLog.Increments race.account.passwordVersion (race.observe s log (tx, action)) ∧
      race.Phase position (race.observe s log (tx, action)) (after s tx table' status') tx := by
  by_cases finished : ∃ result, s.status tx = .running (.done result) ∧ action = .advance
  · obtain ⟨result, status, rfl⟩ := finished
    have located := inv.located.publish writes
    rw [status] at moved
    cases moved
    rw [observe_commit read status]
    have closed : race.Phase position
        (((race.written tx s.table).map (VersionEvent.wrote tx)).toList ++ log)
        (after s tx (s.table.map (Slot.publish tx)) (.committed result)) tx := by
      refine .closed ?_
      rw [after_status_self]
      rfl
    obtain ⟨_, _, own⟩ := writes.written inv.located
    rcases own with ⟨none, _⟩ | ⟨some, _⟩
    · rw [none] at located closed ⊢
      exact ⟨located, inv.increments, closed⟩
    · rw [some] at located closed ⊢
      exact ⟨located, ⟨rfl, inv.increments⟩, closed⟩
  · have unfinished : ∀ result, s.status tx = .running (.done result) → action ≠ .advance :=
      fun result status commits => finished ⟨result, status, commits⟩
    obtain ⟨lawful, obeys'⟩ := obeys.step moved
    have located := inv.located.of_unfinished lawful unfinished
    rw [observe_of_unfinished read unfinished]
    refine ⟨located, inv.increments, .reading read ?_ (writes.step inv.located located lawful)⟩
    rwa [after_status_self]

/-- **Every step of every login keeps the invariant.** -/
theorem Inv.step {label : Label} (inv : race.Inv position s log)
    (stepped : s.step identityConflict label = some s') :
    race.Inv position s' (race.observe s log label) := by
  have isOpen := Sys.isOpen_of_step stepped
  obtain ⟨tx, action⟩ := label
  obtain ⟨table', status', moved, rfl⟩ := Sys.step_eq_some_iff.mp stepped
  have mover : race.Located position
        (VersionLog.current race.account.passwordVersion (race.observe s log (tx, action))) table' ∧
      VersionLog.Increments race.account.passwordVersion (race.observe s log (tx, action)) ∧
      race.Phase position (race.observe s log (tx, action)) (after s tx table' status') tx := by
    cases inv.phase tx with
    | waiting status unread clean => exact inv.step_waiting status unread clean moved
    | reading read obeys writes => exact inv.step_reading read obeys writes moved
    | closed closed =>
        rw [closed] at isOpen
        cases isOpen
  refine ⟨mover.1, mover.2.1, fun other => ?_⟩
  by_cases same : tx = other
  · subst same
    exact mover.2.2
  · exact (inv.phase other).frame same moved

/-- Over any run the account's row holds the version that was written last. -/
theorem inv_run {labels : List Label} (ran : race.start.run identityConflict labels = some s) :
    ∃ position, race.Inv position s (race.history labels) := by
  obtain ⟨position, inv⟩ := race.inv_start
  exact ⟨position, Sys.record_induction (fun inv stepped => inv.step stepped) inv ran⟩

/-- The database shows the version that was written last. -/
theorem Inv.storedVersions (inv : race.Inv position s log) :
    race.storedVersions s = [VersionLog.current race.account.passwordVersion log] := by
  obtain ⟨model, _, isVersion, found⟩ := inv.located.filterMap_eq Slot.committed
    (fun model => model.userId == race.account.userId) (fun _ _ _ => rfl)
    (fun model isAccount => by simp [isAccount.userId]) (fun model user _ => by simpa using user)
  rw [RehashRace.storedVersions, Table.committedRows, found, List.map_singleton, isVersion]

end Run

/-! ## Lost rehashes -/

/-- No rehash is lost: the stored version counts the committed ones, and each of them, like
the password before them, has a version of its own. -/
structure NoLostRehash (race : RehashRace) (labels : List Label) (s : LoginSys) : Prop where
  counted : race.storedVersions s =
    [race.account.passwordVersion + VersionLog.writes (race.history labels)]
  distinct : (VersionLog.versions race.account.passwordVersion (race.history labels)).Nodup

/-- **No rehash is lost exactly if every rehash was fresh**: whenever a login has committed
one, no other login had committed one since it had read the account. -/
theorem noLostRehash_iff (race : RehashRace) (labels : List Label) (s : LoginSys)
    (ran : race.start.run identityConflict labels = some s) :
    race.NoLostRehash labels s ↔ VersionLog.AllFresh (race.history labels) := by
  obtain ⟨position, inv⟩ := race.inv_run ran
  have counted := VersionLog.counted_iff inv.increments
  have distinct := VersionLog.distinct_iff inv.increments
  constructor
  · rintro ⟨same, _⟩
    rw [inv.storedVersions] at same
    exact counted.1 (List.singleton_injective same)
  · intro fresh
    refine ⟨?_, distinct.2 fresh⟩
    rw [inv.storedVersions, counted.2 fresh]

/-- One manager, whose verifier always asks for a rehash. -/
def managerRace : RehashRace where
  database := managerStore
  userIds := by decide
  loginIdentifiers := by decide
  account := ⟨"u", "alice", "hash", .active, 1⟩
  stored := by decide
  services tx := ⟨fun _ _ => ⟨true, some (if tx = 0 then "first" else "second")⟩, fun name => name⟩
  command tx :=
    if tx = 0 then ⟨"alice", "secret", "t", "s0", "f0", "d0", 0, 10 * second, 100 * second⟩
    else ⟨"alice", "secret", "t", "s1", "f1", "d1", 0, 10 * second, 100 * second⟩
  sameLogin tx := by split <;> decide

/-- A login without its commit: it reads the account, the membership and its codes, updates the
account and inserts its session. -/
def loginSteps (tx : TxId) : List Label :=
  [(tx, .advance), (tx, .advance), (tx, .advance), (tx, .advance), (tx, .advance), (tx, .visit 0),
    (tx, .advance), (tx, .advance)]

/-- One login after the other. -/
def oneByOne : List Label :=
  loginSteps 0 ++ [(0, .advance)] ++ loginSteps 1 ++ [(1, .advance)]

/-- Both logins have read the account before one of them commits. -/
def overlapping : List Label :=
  [(1, .advance)] ++ loginSteps 0 ++ [(0, .advance)] ++ (loginSteps 1).tail ++ [(1, .advance)]

/-- The system when both logins have committed, one after the other. -/
def afterBoth : LoginSys :=
  (managerRace.start.run identityConflict oneByOne).get (by decide)

theorem noLostRehash_oneByOne :
    VersionLog.writes (managerRace.history oneByOne) = 2 ∧
      managerRace.NoLostRehash oneByOne afterBoth :=
  ⟨by decide, (noLostRehash_iff managerRace oneByOne afterBoth (Option.some_get _).symm).2
    (by decide)⟩

/-- **A rehash can be lost**: both logins have committed one, and the version counts one. -/
theorem overlapping_loses :
    ∃ s, managerRace.start.run identityConflict overlapping = some s ∧
      (s.status 0).result.isSome = true ∧ (s.status 1).result.isSome = true ∧
      VersionLog.writes (managerRace.history overlapping) = 2 ∧
      managerRace.storedVersions s = [2] ∧ ¬managerRace.NoLostRehash overlapping s := by
  refine ⟨(managerRace.start.run identityConflict overlapping).get (by decide),
    (Option.some_get _).symm, by decide, by decide, by decide, by decide, fun kept => ?_⟩
  exact absurd kept.distinct (by decide)

end RehashRace

end BidSystem.Identity
