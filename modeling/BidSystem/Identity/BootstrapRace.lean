import BidSystem.Identity.Registration
import BidSystem.ReadCommitted.Serial

/-!
# Racing bootstraps of one tenant

Any number of processes start on a tenant without accounts, and each of them runs
`provision_initial_manager`.  They all lock the row of the manager role first, so
that this row is the guard of a partition that holds the whole database, and the
race is a guarded workload: each bootstrap acts as one atomic step at its commit.
The lock is on a row that no bootstrap changes, and the rows that they insert are
new, so it is the role row alone that keeps them apart.

* `one_bootstrap` — **what holds in every state of the race**: one bootstrap at most
  has created an account, and nobody has met a conflict.
-/

namespace BidSystem.Identity

open ReadCommitted

/-- Racing bootstraps: the committed rows at the start, with the manager role of the
tenant and without accounts, and one command for each process. -/
structure BootstrapRace where
  database : List IdentityRow
  tenantId : String
  roleId : String
  migrated : ⟨roleId, tenantId, IdentityRole.manager.value⟩ ∈ roles.rows database
  /-- The unique constraint of `role`. -/
  roleCodes : ((roles.rows database).map fun role => (role.tenantId, role.roleCode)).Nodup
  noAccounts : ¬ Occupied database
  services : TxId → RegistrationServices
  commands : TxId → BootstrapManagerCommand
  tenant : ∀ tx, (commands tx).tenantId = tenantId

namespace BootstrapRace

variable (race : BootstrapRace)

/-- The `WHERE` clause of the lock. -/
def isManagerRole (role : RoleModel) : Bool :=
  role.tenantId == race.tenantId && role.roleCode == IdentityRole.manager.value

/-- The race as a workload with a single partition, guarded by the role row. -/
def workload : Workload IdentityRow String PyError BootstrapManagerResult Unit where
  conflict := identityConflict
  part _ := ()
  guard := roles.on race.isManagerRole
  rows := race.database
  bodies tx := bootstrapManager (race.services tx) (race.commands tx)
  key _ := ()
  writes _ row := roles.read row = none

/-! ## The discipline -/

/-- The statements after the lock. -/
def afterLock (services : RegistrationServices) (command : BootstrapManagerCommand)
    (found : List RoleModel) : IdentityProg BootstrapManagerResult := do
  let managerExists ← (do
    match ← scalarOneOrNone found with
    | none => .raise (.runtimeError "Required manager role has not been migrated")
    | some role => do
        let result ← Prog.selectRows fun _ => true
        let membership ←
          scalarOneOrNone ((membershipsWithRole role.roleId command.tenantId result).take 1)
        return membership.isSome)
  if managerExists then return ⟨false⟩
  else do
    let _ ← createAccount services command.username command.password .manager command.tenantId
      command.userId command.membershipId
    return ⟨true⟩

theorem bootstrapManager_eq (services : RegistrationServices)
    (command : BootstrapManagerCommand) :
    bootstrapManager services command =
      .lockRows (roles.on fun role =>
        role.tenantId == command.tenantId && role.roleCode == IdentityRole.manager.value)
        fun stored => afterLock services command (roles.rows stored) := rfl

variable {race}

theorem confined_addRow {α : Type} {table : Relation IdentityRow α}
    (disjoint : table.Disjoint roles) {tx : TxId} (model : α) :
    (addRow table model).Confined (race.workload.territory tx) := by
  have noRole : roles.read (table.make model) = none := disjoint model
  have ordinary : (race.workload.territory tx).guard (table.make model) = false := by
    show roles.on race.isManagerRole (table.make model) = false
    rw [Relation.on, noRole]
    rfl
  refine (Prog.confined_insertInto rfl ordinary noRole).bind fun violated => ?_
  cases violated with
  | some constraint => exact trivial
  | none => exact trivial

theorem confined_scalarOneOrNone {A : Type} {tx : TxId} (found : List A) :
    (scalarOneOrNone found : IdentityProg (Option A)).Confined (race.workload.territory tx) := by
  rcases found with _ | ⟨first, _ | ⟨second, others⟩⟩ <;> exact trivial

theorem confined_createAccount {tx : TxId} (services : RegistrationServices)
    (username password : String) (role : IdentityRole) (tenantId userId membershipId : String) :
    (createAccount services username password role tenantId userId membershipId).Confined
      (race.workload.territory tx) := by
  refine (Prog.confined_ofExcept _).bind fun credentials => ?_
  refine (Prog.confined_ofExcept _).bind fun account => ?_
  refine (Prog.confined_ofExcept _).bind fun membership => ?_
  refine Prog.Confined.bind ?_ fun _ => trivial
  refine (Prog.confined_selectFrom fun _ _ => rfl).bind fun found => ?_
  refine (confined_scalarOneOrNone _).bind fun roleId => ?_
  cases roleId with
  | none => exact trivial
  | some roleId =>
      refine (confined_addRow (fun _ => rfl) _).bind fun _ => ?_
      exact (confined_addRow (fun _ => rfl) _).bind fun _ => confined_addRow (fun _ => rfl) _

/-- What follows the lock stays inside. -/
theorem confined_afterLock {tx : TxId} (role : RoleModel) :
    (afterLock (race.services tx) (race.commands tx) [role]).Confined
      (race.workload.territory tx) := by
  refine Prog.Confined.bind ?_ fun managerExists => ?_
  · refine ⟨fun _ _ => rfl, fun rows => ?_⟩
    exact (confined_scalarOneOrNone _).bind fun _ => trivial
  · split
    · exact trivial
    · exact (confined_createAccount _ _ _ _ _ _ _).bind fun _ => trivial

/-- The manager role of the tenant is one row. -/
theorem guard_unique {i j : ℕ} {a b : IdentityRow} (at_i : race.database[i]? = some a)
    (at_j : race.database[j]? = some b) (guardA : race.workload.guard a = true)
    (guardB : race.workload.guard b = true) : i = j := by
  obtain ⟨role, rfl, isRole⟩ := roles.on_iff.mp guardA
  obtain ⟨other, rfl, isOther⟩ := roles.on_iff.mp guardB
  simp only [isManagerRole, Bool.and_eq_true, beq_iff_eq] at isRole isOther
  refine roles.index_unique race.roleCodes at_i at_j ?_
  rw [isRole.1, isRole.2, isOther.1, isOther.2]

/-- **The race is a guarded workload.** -/
theorem guarded (race : BootstrapRace) : race.workload.Guarded where
  entry tx := by
    refine .inl ⟨_, _, {
      body := bootstrapManager_eq (race.services tx) (race.commands tx)
      filter_iff := fun row => ?_
      away := .raise _
      confined := fun row accepted => ?_ }⟩
    · rw [race.tenant tx]
      exact (and_iff_left rfl).symm
    · obtain ⟨role, rfl, _⟩ := roles.on_iff.mp accepted
      rw [Relation.rows_singleton_make]
      exact confined_afterLock role
  oneGuard _ _ _ _ at_i at_j guardA guardB _ := guard_unique at_i at_j guardA guardB
  writes_part _ _ _ := rfl
  conflict_part _ _ _ _ _ _ := rfl

/-! ## One bootstrap alone -/

/-- The manager role is found. -/
theorem filter_isManagerRole (race : BootstrapRace) :
    (roles.rows race.database).filter race.isManagerRole =
      [⟨race.roleId, race.tenantId, IdentityRole.manager.value⟩] := by
  have sameFilter : race.isManagerRole = fun role : RoleModel =>
      (role.tenantId, role.roleCode) == (race.tenantId, IdentityRole.manager.value) := rfl
  rw [sameFilter]
  rcases filter_eq_of_nodup race.roleCodes (race.tenantId, IdentityRole.manager.value) with
    ⟨absent, _⟩ | ⟨row, stored, same, only⟩
  · exact absurd rfl (absent _ race.migrated)
  · rw [only, List.inj_on_of_nodup_map race.roleCodes stored race.migrated same]

/-- What a bootstrap sees of a database with the roles of the start. -/
theorem exec_managerExistsForUpdate {database : List IdentityRow}
    (sameRoles : roles.rows database = roles.rows race.database) :
    (managerExistsForUpdate race.tenantId).exec identityConflict database =
      (.ok (!(membershipsWithRole race.roleId race.tenantId database).isEmpty), database) := by
  have all : database.filter (fun _ => true) = database := by simp
  have found := filter_isManagerRole race
  rw [← sameRoles] at found
  rw [managerExistsForUpdate, Prog.exec_lockFrom_bind]
  rw [show (fun role : RoleModel => role.tenantId == race.tenantId &&
    role.roleCode == IdentityRole.manager.value) = race.isManagerRole from rfl, found,
    scalarOneOrNone, Prog.bind_done]
  dsimp only
  rw [Prog.selectRows, Prog.bind_select, Prog.exec_select, all, Prog.bind_done]
  cases membershipsWithRole race.roleId race.tenantId database <;> rfl

theorem membershipsWithRole_start (race : BootstrapRace) :
    membershipsWithRole race.roleId race.tenantId race.database = [] := by
  have noLinks : membershipRoles.rows race.database = [] := by
    by_contra some
    exact race.noAccounts (.inr (.inr some))
  rw [membershipsWithRole, noLinks]
  rfl

/-- The rows after the bootstrap of `tx`. -/
structure Bootstrapped (race : BootstrapRace) (tx : TxId) (account : LocalAccount)
    (membership : TenantMembership) (database : List IdentityRow) : Prop where
  built : newMembership (race.commands tx).membershipId (race.commands tx).userId race.tenantId
    .manager = .ok membership
  rows : database = race.database ++ accountRows account membership race.roleId

theorem Bootstrapped.roles {tx : TxId} {account : LocalAccount} {membership : TenantMembership}
    {database : List IdentityRow} (bootstrapped : race.Bootstrapped tx account membership database) :
    Identity.roles.rows database = Identity.roles.rows race.database := by
  rw [bootstrapped.rows, Relation.rows_append]
  exact List.append_nil _

/-- **The tenant has one manager.** -/
theorem Bootstrapped.manager {tx : TxId} {account : LocalAccount} {membership : TenantMembership}
    {database : List IdentityRow} (bootstrapped : race.Bootstrapped tx account membership database) :
    membershipsWithRole race.roleId race.tenantId database = [membership.membershipId] := by
  have noMemberships : tenantMemberships.rows race.database = [] := by
    by_contra some
    exact race.noAccounts (.inr (.inl some))
  have noLinks : membershipRoles.rows race.database = [] := by
    by_contra some
    exact race.noAccounts (.inr (.inr some))
  have memberships : tenantMemberships.rows database = [membership.toTenantMembershipModel] := by
    rw [bootstrapped.rows, Relation.rows_append, noMemberships]
    rfl
  have links : membershipRoles.rows database = [⟨membership.membershipId, race.roleId⟩] := by
    rw [bootstrapped.rows, Relation.rows_append, noLinks]
    rfl
  have tenant : membership.tenantId = race.tenantId :=
    congrArg TenantMembershipModel.tenantId (toModel_of_newMembership bootstrapped.built)
  rw [membershipsWithRole, memberships, links]
  simp [tenant]

/-- A bootstrap on a tenant with a manager does nothing. -/
theorem exec_of_bootstrapped {tx winner : TxId} {account : LocalAccount}
    {membership : TenantMembership} {database : List IdentityRow}
    (bootstrapped : race.Bootstrapped winner account membership database) :
    (bootstrapManager (race.services tx) (race.commands tx)).exec identityConflict database =
      (.ok ⟨false⟩, database) := by
  rw [bootstrapManager, Prog.exec_bind, race.tenant tx,
    exec_managerExistsForUpdate bootstrapped.roles, bootstrapped.manager]
  rfl

/-- The first bootstrap creates the manager, or raises an error that is no conflict. -/
theorem exec_start (race : BootstrapRace) (tx : TxId) :
    (∃ account membership, (bootstrapManager (race.services tx) (race.commands tx)).exec
        identityConflict race.database =
          (.ok ⟨true⟩, race.database ++ accountRows account membership race.roleId) ∧
      race.Bootstrapped tx account membership
        (race.database ++ accountRows account membership race.roleId)) ∨
      ∃ error later, error ≠ PyError.businessConflictError ∧
        (bootstrapManager (race.services tx) (race.commands tx)).exec identityConflict
          race.database = (.error error, later) := by
  rw [bootstrapManager, Prog.exec_bind, race.tenant tx, exec_managerExistsForUpdate rfl,
    membershipsWithRole_start]
  dsimp only
  rw [List.isEmpty_nil, Bool.not_true, if_neg Bool.false_ne_true, Prog.exec_return]
  have effect := createAccount_effect (race.services tx) (race.commands tx).username
    (race.commands tx).password .manager race.tenantId (race.commands tx).userId
    (race.commands tx).membershipId race.database
  generalize (createAccount (race.services tx) (race.commands tx).username
    (race.commands tx).password .manager race.tenantId (race.commands tx).userId
    (race.commands tx).membershipId).exec identityConflict race.database = outcome at effect
  cases effect with
  | @created username roleId account membership built found fresh =>
      have sameRole := List.inj_on_of_nodup_map race.roleCodes found race.migrated rfl
      obtain ⟨rfl, -, -⟩ := RoleModel.mk.inj sameRole
      exact .inl ⟨account, membership, rfl, built, rfl⟩
  | failed error later conflict =>
      exact .inr ⟨error, later, fun same => race.noAccounts (conflict same), rfl⟩

/-! ## The race as a sequence of atomic bootstraps -/

/-- **What holds throughout the race.** -/
structure Progress (race : BootstrapRace)
    (s : Sys IdentityRow String PyError BootstrapManagerResult) : Prop where
  /-- Nobody has created an account, or one bootstrap has. -/
  created : (Table.committedRows s.table = race.database ∧
      ∀ tx result, s.status tx ≠ .committed result) ∨
    ∃ winner account membership, s.status winner = .committed ⟨true⟩ ∧
      race.Bootstrapped winner account membership (Table.committedRows s.table) ∧
      ∀ tx result, s.status tx = .committed result → tx ≠ winner → result = ⟨false⟩
  noConflict : ∀ tx, s.status tx ≠ .aborted (some .businessConflictError)

theorem committedIn_eq (key : Unit) (table : Table IdentityRow) :
    race.workload.committedIn key table = Table.committedRows table := by
  rw [Workload.committedIn, List.filter_eq_self]
  intro row _
  exact decide_eq_true rfl

theorem progress_start (race : BootstrapRace) : Progress race race.workload.start where
  created := .inl ⟨Table.committedRows_settled race.database, fun _ _ => nofun⟩
  noConflict _ := nofun

section Step

variable {s s' : Sys IdentityRow String PyError BootstrapManagerResult} {tx : TxId}

/-- A move that commits nothing. -/
theorem Progress.of_quiet (progress : Progress race s) (moves : race.workload.Moves s s' tx)
    (rows : Table.committedRows s'.table = Table.committedRows s.table)
    (silent : ∀ result, s'.status tx ≠ .committed result)
    (noConflict : s'.status tx ≠ .aborted (some .businessConflictError)) : Progress race s' := by
  constructor
  · rcases progress.created with ⟨same, nobody⟩ | ⟨winner, account, membership, won, rest, others⟩
    · refine .inl ⟨rows.trans same, fun other result status => ?_⟩
      by_cases isTx : other = tx
      · exact silent result (isTx ▸ status)
      · exact nobody other result ((moves.others other isTx).symm.trans status)
    · have notTx : winner ≠ tx := by
        rintro rfl
        have wasOpen := moves.wasOpen
        rw [won] at wasOpen
        cases wasOpen
      refine .inr ⟨winner, account, membership, (moves.others winner notTx).trans won,
        rows ▸ rest, fun other result status => ?_⟩
      by_cases isTx : other = tx
      · exact absurd (isTx ▸ status) (silent result)
      · exact others other result ((moves.others other isTx).symm.trans status)
  · intro other status
    by_cases isTx : other = tx
    · exact noConflict (isTx ▸ status)
    · exact progress.noConflict other ((moves.others other isTx).symm.trans status)

/-- The manager role is there. -/
theorem not_idle {body : IdentityProg BootstrapManagerResult} : ¬ race.workload.Idle tx body := by
  intro idle
  cases idle with
  | refused terminal =>
      have isLock : race.workload.bodies tx = .lockRows _ _ :=
        bootstrapManager_eq (race.services tx) (race.commands tx)
      rw [isLock] at terminal
      cases terminal
  | away locks unguarded =>
      refine unguarded _ (roles.mem_rows.mp race.migrated) ?_ rfl
      show roles.on race.isManagerRole (roles.make _) = true
      rw [roles.on_make, isManagerRole, beq_self_eq_true, beq_self_eq_true]
      rfl

/-- **Every move keeps what holds throughout the race.** -/
theorem Progress.step (progress : Progress race s) (moves : race.workload.Moves s s' tx) :
    Progress race s' := by
  have allRows : (∀ key, race.workload.committedIn key s'.table =
      race.workload.committedIn key s.table) →
        Table.committedRows s'.table = Table.committedRows s.table := by
    intro rows
    have all := rows ()
    rwa [committedIn_eq, committedIn_eq] at all
  cases moves.outcome with
  | quiet rows still =>
      refine progress.of_quiet moves (allRows rows) (fun result status => ?_) fun status => ?_
      · rw [status] at still
        cases still
      · rw [status] at still
        cases still
  | crashed rows status =>
      refine progress.of_quiet moves (allRows rows) (fun result committed => ?_) fun aborted => ?_
      · cases status.symm.trans committed
      · cases status.symm.trans aborted
  | idle idle outside rows ended => exact absurd idle not_idle
  | committed result inside status serial others =>
      rw [Workload.serial, committedIn_eq, committedIn_eq] at serial
      have notEarlier : ∀ other result, other ≠ tx → s'.status other = .committed result →
          s.status other = .committed result := fun other result isOther committed =>
        (moves.others other isOther).symm.trans committed
      rcases progress.created with
        ⟨same, nobody⟩ | ⟨winner, account, membership, won, bootstrapped, others⟩
      · -- The first commit.
        rw [same] at serial
        rcases exec_start race tx with
          ⟨account, membership, ran, bootstrapped⟩ | ⟨error, later, -, ran⟩
        · obtain ⟨isResult, isRows⟩ := Prod.mk.inj (ran.symm.trans serial)
          cases isResult
          refine ⟨.inr ⟨tx, account, membership, status, isRows ▸ bootstrapped,
            fun other result committed isOther => ?_⟩, fun other aborted => ?_⟩
          · exact absurd (notEarlier other result isOther committed) (nobody other result)
          · by_cases isTx : other = tx
            · rw [isTx, status] at aborted
              cases aborted
            · exact progress.noConflict other ((moves.others other isTx).symm.trans aborted)
        · cases ran.symm.trans serial
      · -- A later one sees the manager.
        obtain ⟨isResult, isRows⟩ :=
          Prod.mk.inj ((exec_of_bootstrapped bootstrapped).symm.trans serial)
        cases isResult
        have notTx : winner ≠ tx := by
          rintro rfl
          have wasOpen := moves.wasOpen
          rw [won] at wasOpen
          cases wasOpen
        refine ⟨.inr ⟨winner, account, membership, (moves.others winner notTx).trans won,
          isRows ▸ bootstrapped, fun other result committed isOther => ?_⟩,
          fun other aborted => ?_⟩
        · by_cases isTx : other = tx
          · rw [isTx, status] at committed
            cases committed
            rfl
          · exact others other result (notEarlier other result isTx committed) isOther
        · by_cases isTx : other = tx
          · rw [isTx, status] at aborted
            cases aborted
          · exact progress.noConflict other ((moves.others other isTx).symm.trans aborted)
  | raised error inside status serial rows =>
      refine progress.of_quiet moves (allRows rows) (fun result committed => ?_) fun aborted => ?_
      · cases status.symm.trans committed
      · cases status.symm.trans aborted
        rw [Workload.serial, committedIn_eq] at serial
        rcases progress.created with
          ⟨same, nobody⟩ | ⟨winner, account, membership, won, bootstrapped, others⟩
        · rw [same] at serial
          rcases exec_start race tx with ⟨account, membership, ran, -⟩ | ⟨error, later, other, ran⟩
          · cases (congrArg Prod.fst ran).symm.trans serial
          · exact other (Except.error.inj ((congrArg Prod.fst ran).symm.trans serial))
        · cases (congrArg Prod.fst (exec_of_bootstrapped bootstrapped)).symm.trans serial

end Step

/-- **One bootstrap.**  In every interleaving nobody meets a conflict, and as soon as
anybody has committed, one process has created the only manager of the tenant and
everybody else who has committed has done nothing. -/
theorem one_bootstrap (race : BootstrapRace) (labels : List Label)
    (s : Sys IdentityRow String PyError BootstrapManagerResult)
    (ran : race.workload.start.run identityConflict labels = some s) :
    (∀ tx, s.status tx ≠ .running (.raise .businessConflictError) ∧
      s.status tx ≠ .aborted (some .businessConflictError)) ∧
    ((Table.committedRows s.table = race.database ∧
        ∀ tx result, s.status tx ≠ .committed result) ∨
      ∃ winner account membership, s.status winner = .committed ⟨true⟩ ∧
        newMembership (race.commands winner).membershipId (race.commands winner).userId
          race.tenantId .manager = .ok membership ∧
        Table.committedRows s.table =
          race.database ++ accountRows account membership race.roleId ∧
        membershipsWithRole race.roleId race.tenantId (Table.committedRows s.table) =
          [membership.membershipId] ∧
        ∀ tx result, s.status tx = .committed result → tx ≠ winner → result = ⟨false⟩) := by
  have reached : ∀ labels (s : Sys IdentityRow String PyError BootstrapManagerResult),
      race.workload.start.run identityConflict labels = some s → Progress race s :=
    fun labels s ran => ((Workload.Guarded.inv_start race.guarded).run_induction race.guarded
      (fun _ progress moves => progress.step moves) (progress_start race) ran).2
  refine ⟨fun tx => ⟨fun raising => ?_, (reached labels s ran).noConflict tx⟩, ?_⟩
  · -- Who has met a conflict could abort with it next.
    have stepped : s.step identityConflict (tx, .advance) = some {
        table := s.table.map (Slot.discard tx)
        status := Function.update s.status tx (.aborted (some .businessConflictError)) } := by
      rw [Sys.step, raising]
      rfl
    have further : race.workload.start.run identityConflict (labels ++ [(tx, .advance)]) =
        some { table := s.table.map (Slot.discard tx)
               status := Function.update s.status tx
                 (.aborted (some .businessConflictError)) } := by
      rw [Sys.run_append, ran, Option.bind_some, Sys.run_cons, stepped]
      rfl
    exact (reached _ _ further).noConflict tx (Function.update_self ..)
  · rcases (reached labels s ran).created with
      nobody | ⟨winner, account, membership, won, bootstrapped, others⟩
    · exact .inl nobody
    · exact .inr ⟨winner, account, membership, won, bootstrapped.built, bootstrapped.rows,
        bootstrapped.manager, others⟩

/-- Processes that start on the tables of the migration with the same credentials. -/
def seededRace : BootstrapRace where
  database := seed
  tenantId := defaultTenantId
  roleId := IdentityRole.manager.seededId
  migrated := by decide
  roleCodes := by decide
  noAccounts := by
    rintro (some | some | some) <;> exact some rfl
  services _ := {
    casefold := id
    isalpha := Char.isAlpha
    isdigit := Char.isDigit
    hash := id }
  commands tx := if tx = 0 then ⟨"root", "password1", defaultTenantId, "u0", "m0"⟩
    else ⟨"root", "password1", defaultTenantId, "u1", "m1"⟩
  tenant tx := by split <;> rfl

/-- Process 1 waits for the role row while process 0 creates the manager. -/
def creationFirst : List Label :=
  [(0, .advance), (1, .advance), (0, .visit 3), (0, .advance), (0, .advance), (0, .advance),
    (0, .advance), (0, .advance), (0, .advance), (0, .advance), (1, .visit 3), (1, .advance),
    (1, .advance), (1, .advance)]

/-- The system when both have committed. -/
def afterBootstraps : Sys IdentityRow String PyError BootstrapManagerResult :=
  (seededRace.workload.start.run identityConflict creationFirst).get (by decide)

theorem one_bootstrap_seededRace :
    (afterBootstraps.status 1).result = some ⟨false⟩ ∧
      membershipsWithRole "default-manager" "default"
        (Table.committedRows afterBootstraps.table) = ["m0"] := by
  have first : afterBootstraps.status 0 = .committed ⟨true⟩ :=
    Status.result_eq_some.mp (by decide)
  obtain ⟨-, ⟨-, nobody⟩ | ⟨winner, account, membership, won, built, -, manager, others⟩⟩ :=
    one_bootstrap seededRace creationFirst afterBootstraps (Option.some_get _).symm
  · exact absurd first (nobody 0 _)
  · have isFirst : winner = 0 := by
      by_contra isOther
      cases others 0 _ first (Ne.symm isOther)
    rw [isFirst] at built
    have membershipId : membership.membershipId = "m0" :=
      congrArg TenantMembershipModel.membershipId (toModel_of_newMembership built)
    rw [membershipId] at manager
    exact ⟨by decide, manager⟩

end BootstrapRace

end BidSystem.Identity
