import BidSystem.Documents.History
import BidSystem.ReadCommitted.Serial

/-!
# Concurrent document transactions

Any number of `create` and `append` transactions interleave.  The row of a
document guards its versions: `append` locks it first and `create` brings it
in, so the transactions are a guarded workload with one partition for each
document, and every one of them acts as one atomic step at its commit.

* `DocumentTraffic` — the transactions and the rows they start from.
* `DocumentTraffic.guarded` — they keep to the guard discipline.
* `Progress` — what holds throughout a run.
* `append_only` — the histories of all documents grow by appends only.
-/

namespace BidSystem.Documents

open ReadCommitted AppendOnly

/-- The system of document transactions. -/
abbrev DocumentSys := Sys DocumentRow String PyError DocumentVersion

/-- A call of the repository. -/
inductive DocumentCall where
  | create (prepared : PreparedDocumentVersion)
  | append (documentId : String) (prepared : PreparedDocumentVersion)
deriving DecidableEq, Repr

namespace DocumentCall

/-- The statements of the transaction. -/
def body : DocumentCall → DocumentProg DocumentVersion
  | create prepared => Documents.create prepared
  | append documentId prepared => Documents.append documentId prepared

/-- The version it brings. -/
def prepared : DocumentCall → PreparedDocumentVersion
  | create prepared => prepared
  | append _ prepared => prepared

/-- The document it works on. -/
def documentId : DocumentCall → String
  | create prepared => prepared.documentId
  | append documentId _ => documentId

end DocumentCall

/-- The rows of one document. -/
def rowsOf (documentId : String) (rows : List DocumentRow) : List DocumentRow :=
  rows.filter fun row => decide (row.documentId = documentId)

/-- Transactions that share the document tables: the committed rows at the start
and one call for each transaction, with fresh ids. -/
structure DocumentTraffic where
  database : List DocumentRow
  documentIds : ((documents.rows database).map DocumentModel.id).Nodup
  stored : ∀ documentId, Stored documentId (rowsOf documentId database)
  calls : TxId → DocumentCall
  freshDocuments : ∀ tx prepared, calls tx = .create prepared →
    rowsOf prepared.documentId database = []
  soleDocuments : ∀ tx other prepared prepared', calls tx = .create prepared →
    calls other = .create prepared' → prepared.documentId = prepared'.documentId → tx = other
  freshVersions : ∀ tx, ∀ old ∈ documentVersions.rows database, old.id ≠ (calls tx).prepared.id
  distinctVersions : ∀ tx other, (calls tx).prepared.id = (calls other).prepared.id → tx = other

/-! ## The first statements -/

theorem append_eq {documentId : String} {prepared : PreparedDocumentVersion}
    (own : prepared.documentId = documentId) :
    append documentId prepared =
      .lockRows (documents.on fun stored => stored.id == documentId) fun stored =>
        scalarOneOrNone (documents.rows stored) >>= appendLocked documentId prepared := by
  rw [append, if_neg (not_not.mpr own)]
  rfl

/-- What `create` does after the insert of the document. -/
def createNext (version : DocumentVersion) : Option String → DocumentProg DocumentVersion
  | some constraint => .raise (integrityError constraint)
  | none => do
      flushRow documentVersions version.toDocumentVersionModel
      return version

theorem create_eq {prepared : PreparedDocumentVersion} {version : DocumentVersion}
    (built : prepared.toVersion 1 = .ok version) :
    create prepared =
      .insert (documents.make { id := version.documentId, createdAt := version.uploadedAt })
        (createNext version) := by
  rw [create, built, Prog.bind_ofExcept_ok, flushRow, Prog.insertInto, Prog.bind_insert,
    Prog.bind_insert]
  congr 1
  funext violated
  cases violated <;> rfl

theorem create_refused {prepared : PreparedDocumentVersion} {error : PyError}
    (refused : prepared.toVersion 1 = .error error) : create prepared = .raise error := by
  rw [create, refused]
  rfl

namespace DocumentTraffic

variable (traffic : DocumentTraffic)

/-- The transactions as a workload, partitioned by document. -/
def workload : Workload DocumentRow String PyError DocumentVersion String where
  conflict := documentConflict
  part := DocumentRow.documentId
  guard := documents.on fun _ => true
  rows := traffic.database
  bodies tx := (traffic.calls tx).body
  key tx := (traffic.calls tx).documentId
  writes tx row := row.documentId = (traffic.calls tx).documentId ∧
    ∀ model, row = documentVersions.make model → model.id = (traffic.calls tx).prepared.id

/-! ## The discipline -/

variable {traffic} {tx : TxId}

/-- A version of the right document and with the right id may be inserted. -/
theorem confined_flushVersion {model : DocumentVersionModel}
    (own : model.documentId = (traffic.calls tx).documentId)
    (named : model.id = (traffic.calls tx).prepared.id) :
    (flushRow documentVersions model).Confined (traffic.workload.territory tx) := by
  rw [flushRow]
  refine Prog.Confined.bind ?_ fun violated => ?_
  · refine Prog.confined_insertInto own rfl ⟨own, fun other same => ?_⟩
    cases same
    exact named
  · cases violated <;> exact trivial

/-- What follows the lock stays in the document. -/
theorem confined_appendLocked {documentId : String} {prepared : PreparedDocumentVersion}
    (call : traffic.calls tx = .append documentId prepared)
    (own : prepared.documentId = documentId) (model : DocumentModel) :
    (appendLocked documentId prepared (some model)).Confined (traffic.workload.territory tx) := by
  have key : (traffic.calls tx).documentId = documentId := by rw [call]; rfl
  have id : (traffic.calls tx).prepared.id = prepared.id := by rw [call]; rfl
  rw [appendLocked]
  refine Prog.Confined.bind (Prog.confined_selectFrom fun row matched => ?_) fun duplicates => ?_
  · rw [Bool.and_eq_true, beq_iff_eq] at matched
    exact matched.1.trans key.symm
  rw [scalarOneOrNone_take, Prog.bind_done]
  split
  · exact trivial
  refine Prog.Confined.bind (Prog.confined_selectFrom fun row matched => ?_) fun stored => ?_
  · exact (beq_iff_eq.mp matched).trans key.symm
  split
  · exact trivial
  · next latestVersion _ =>
      cases built : prepared.toVersion (latestVersion + 1) with
      | error error => exact trivial
      | ok version =>
          have fields := PreparedDocumentVersion.toVersion_ok_iff.mp built
          rw [Prog.bind_ofExcept_ok]
          refine Prog.Confined.bind (confined_flushVersion ?_ ?_) fun _ => trivial
          · rw [fields, key]
            exact own
          · rw [fields, id]
            rfl

theorem guard_iff {row : DocumentRow} :
    traffic.workload.guard row = true ↔ ∃ model, row = documents.make model := by
  constructor
  · intro guard
    obtain ⟨model, isMade, _⟩ := documents.on_iff.mp guard
    exact ⟨model, isMade⟩
  · rintro ⟨model, rfl⟩
    rfl

theorem document_ne_version (document : DocumentModel) (version : DocumentVersionModel) :
    documents.make document ≠ documentVersions.make version := by
  intro same
  cases same

/-- How a transaction enters. -/
theorem entry (tx : TxId) :
    (∃ filter next, traffic.workload.Locks tx filter next) ∨
      (∃ row next, traffic.workload.Creates tx row next) ∨
        (traffic.workload.bodies tx).Terminal := by
  cases call : traffic.calls tx with
  | create prepared =>
      have body : traffic.workload.bodies tx = create prepared := by
        show (traffic.calls tx).body = _
        rw [call]
        rfl
      have key : (traffic.calls tx).documentId = prepared.documentId := by rw [call]; rfl
      have id : (traffic.calls tx).prepared.id = prepared.id := by rw [call]; rfl
      cases built : prepared.toVersion 1 with
      | error error =>
          refine .inr (.inr ?_)
          rw [body, create_refused built]
          exact .raise error
      | ok version =>
          have fields := PreparedDocumentVersion.toVersion_ok_iff.mp built
          have own : version.documentId = (traffic.calls tx).documentId := by
            rw [fields, key]
            rfl
          have named : version.id = (traffic.calls tx).prepared.id := by
            rw [fields, id]
            rfl
          refine .inr (.inl ⟨_, _, {
            body := body.trans (create_eq built)
            guard := rfl
            part := own
            writes := ⟨own, fun model same => absurd same (document_ne_version _ model)⟩
            confined := (confined_flushVersion own named).bind fun _ => trivial
            vacant := fun old member part => ?_
            sole := fun other row' next' body' shared => ?_ }⟩)
          · have absent := traffic.freshDocuments tx prepared call
            rw [rowsOf, List.filter_eq_nil_iff] at absent
            exact absent old member (decide_eq_true (part.trans key))
          · cases call' : traffic.calls other with
            | create prepared' =>
                refine traffic.soleDocuments other tx prepared' prepared call' call ?_
                have shared' : (traffic.calls other).documentId = (traffic.calls tx).documentId :=
                  shared
                rw [call', call] at shared'
                exact shared'
            | append documentId prepared' =>
                have isAppend : traffic.workload.bodies other = append documentId prepared' := by
                  show (traffic.calls other).body = _
                  rw [call']
                  rfl
                rw [isAppend] at body'
                by_cases own' : prepared'.documentId = documentId
                · rw [append_eq own'] at body'
                  cases body'
                · rw [append, if_pos own'] at body'
                  cases body'
  | append documentId prepared =>
      have body : traffic.workload.bodies tx = append documentId prepared := by
        show (traffic.calls tx).body = _
        rw [call]
        rfl
      have key : traffic.workload.key tx = documentId := by
        show (traffic.calls tx).documentId = _
        rw [call]
        rfl
      by_cases own : prepared.documentId = documentId
      · refine .inl ⟨_, _, {
          body := body.trans (append_eq own)
          filter_iff := fun row => ?_
          away := .raise _
          confined := fun row accepted => ?_ }⟩
        · rw [guard_iff, key, documents.on_iff]
          constructor
          · rintro ⟨model, rfl, named⟩
            exact ⟨⟨model, rfl⟩, beq_iff_eq.mp named⟩
          · rintro ⟨⟨model, rfl⟩, named⟩
            exact ⟨model, rfl, beq_iff_eq.mpr named⟩
        · obtain ⟨model, rfl, _⟩ := documents.on_iff.mp accepted
          rw [Relation.rows_singleton_make]
          exact confined_appendLocked call own model
      · refine .inr (.inr ?_)
        rw [body, append, if_pos own]
        exact .raise _

/-- **The transactions keep to the guard discipline.** -/
theorem guarded (traffic : DocumentTraffic) : traffic.workload.Guarded where
  entry := entry
  oneGuard i j a b at_i at_j guardA guardB shared := by
    obtain ⟨model, rfl⟩ := guard_iff.mp guardA
    obtain ⟨model', rfl⟩ := guard_iff.mp guardB
    exact documents.index_unique traffic.documentIds at_i at_j shared
  writes_part tx row written := written.1
  conflict_part tx old new source written loud := by
    cases old with
    | document model =>
        cases new with
        | document model' =>
            by_contra different
            have silent : traffic.workload.conflict (.document model) (.document model') = none :=
              if_neg different
            rw [silent] at loud
            cases loud
        | documentVersion version => cases loud
    | documentVersion version =>
        cases new with
        | document model => cases loud
        | documentVersion version' =>
            by_contra different
            have otherDocument : version.documentId ≠ version'.documentId := different
            have silent : traffic.workload.conflict (.documentVersion version)
                (.documentVersion version') = none := by
              show documentConflict (.documentVersion version) (.documentVersion version') = none
              rw [documentConflict, if_neg, if_neg, if_neg]
              · exact fun same => otherDocument same.1
              · exact fun same => otherDocument same.1
              · intro same
                have named := written.2 version' rfl
                rcases source with initial | ⟨other, written'⟩
                · exact traffic.freshVersions tx version (documentVersions.mem_rows.mpr initial)
                    (same.trans named)
                · have named' := written'.2 version rfl
                  have sameTx := traffic.distinctVersions other tx
                    (named'.symm.trans (same.trans named))
                  rw [sameTx] at written'
                  exact different (written'.1.trans written.1.symm)
            rw [silent] at loud
            cases loud

/-! ## What a run does -/

/-- The committed rows of a document. -/
def committedRows (documentId : String) (s : DocumentSys) : List DocumentRow :=
  rowsOf documentId (Table.committedRows s.table)

theorem committedIn_eq (documentId : String) (s : DocumentSys) :
    traffic.workload.committedIn documentId s.table = committedRows documentId s := rfl

/-- The error of the version-sequence branch. -/
def versionConflict : PyError := integrityError versionSequenceConstraint

/-- What holds throughout a run. -/
structure Progress (traffic : DocumentTraffic) (s : DocumentSys) : Prop where
  stored : ∀ documentId, Stored documentId (committedRows documentId s)
  /-- Stored versions are initial ones or those of transactions that have committed. -/
  fresh : ∀ tx, (s.status tx).isOpen = true →
    ∀ old ∈ documentVersions.rows (Table.committedRows s.table),
      old.id ≠ (traffic.calls tx).prepared.id
  /-- A document that is still to be created has no rows. -/
  pending : ∀ tx prepared, traffic.calls tx = .create prepared → (s.status tx).isOpen = true →
    committedRows prepared.documentId s = []
  noConflict : ∀ tx, s.status tx ≠ .aborted (some versionConflict)

theorem progress_start (traffic : DocumentTraffic) : Progress traffic traffic.workload.start where
  stored documentId := by
    rw [committedRows]
    show Stored documentId (rowsOf documentId (Table.settled traffic.database).committedRows)
    rw [Table.committedRows_settled]
    exact traffic.stored documentId
  fresh tx _ old member := by
    have member' : old ∈ documentVersions.rows (Table.settled traffic.database).committedRows :=
      member
    rw [Table.committedRows_settled] at member'
    exact traffic.freshVersions tx old member'
  pending tx prepared call _ := by
    show rowsOf _ (Table.settled traffic.database).committedRows = []
    rw [Table.committedRows_settled]
    exact traffic.freshDocuments tx prepared call
  noConflict tx := nofun

/-- What an atomic transaction does to the rows of its document. -/
inductive CallEffect (traffic : DocumentTraffic) (tx : TxId) (rows : List DocumentRow) :
    Except PyError DocumentVersion × List DocumentRow → Prop
  | created (prepared : PreparedDocumentVersion) (call : traffic.calls tx = .create prepared)
      (none : rows = []) (version : DocumentVersion)
      (fields : version.toDocumentVersionModel = prepared.withVersion 1) :
      CallEffect traffic tx rows (.ok version, [documents.make
          { id := version.documentId, createdAt := version.uploadedAt },
        documentVersions.make version.toDocumentVersionModel])
  | appended (documentId : String) (prepared : PreparedDocumentVersion)
      (call : traffic.calls tx = .append documentId prepared)
      (own : prepared.documentId = documentId)
      {outcome : Except PyError DocumentVersion × List DocumentRow}
      (effect : AppendEffect prepared rows outcome) : CallEffect traffic tx rows outcome
  | refused (terminal : (traffic.calls tx).body.Terminal) (message : String)
      {rows' : List DocumentRow} : CallEffect traffic tx rows (.error (.valueError message), rows')

/-- **A transaction alone on the rows of its document.** -/
theorem Progress.effect {s : DocumentSys} (progress : Progress traffic s)
    (isOpen : (s.status tx).isOpen = true) :
    CallEffect traffic tx (committedRows (traffic.calls tx).documentId s)
      (traffic.workload.serial tx s.table) := by
  have fresh : ∀ old ∈ documentVersions.rows (committedRows (traffic.calls tx).documentId s),
      old.id ≠ (traffic.calls tx).prepared.id := by
    intro old member
    have inDocument := documentVersions.mem_rows.mp member
    exact progress.fresh tx isOpen old
      (documentVersions.mem_rows.mpr (List.mem_of_mem_filter inDocument))
  show CallEffect traffic tx (committedRows (traffic.calls tx).documentId s)
    ((traffic.calls tx).body.exec documentConflict
      (committedRows (traffic.calls tx).documentId s))
  cases call : traffic.calls tx with
  | create prepared =>
      have none : committedRows (DocumentCall.create prepared).documentId s = [] :=
        progress.pending tx prepared call isOpen
      rw [none]
      show CallEffect traffic tx [] ((create prepared).exec documentConflict [])
      cases built : prepared.toVersion 1 with
      | error error =>
          rw [create_refused built]
          obtain ⟨message, rfl⟩ := DocumentVersion.ofModel_error built
          refine .refused ?_ message
          rw [call]
          show (create prepared).Terminal
          rw [create_refused built]
          exact .raise _
      | ok version =>
          rw [create_effect built]
          exact .created prepared call rfl version (PreparedDocumentVersion.toVersion_ok_iff.mp built)
  | append documentId prepared =>
      rw [call] at fresh
      show CallEffect traffic tx (committedRows documentId s)
        ((append documentId prepared).exec documentConflict (committedRows documentId s))
      by_cases own : prepared.documentId = documentId
      · exact .appended documentId prepared call own
          (append_effect (progress.stored documentId) own fresh)
      · have body : append documentId prepared =
            .raise (.valueError "prepared version does not match requested document") :=
          if_pos own
        rw [body]
        refine .refused ?_ _
        rw [call]
        show (append documentId prepared).Terminal
        rw [body]
        exact .raise _

/-- No transaction raises the version conflict. -/
theorem Progress.serial_ne {s : DocumentSys} (progress : Progress traffic s)
    (isOpen : (s.status tx).isOpen = true) :
    (traffic.workload.serial tx s.table).1 ≠ .error versionConflict := by
  have effect := progress.effect isOpen
  generalize traffic.workload.serial tx s.table = outcome at effect
  cases effect with
  | created prepared call none version fields => exact nofun
  | appended documentId prepared call own effect => cases effect <;> exact nofun
  | refused terminal message => exact nofun

/-- What never reaches the row of a document ends with one of two errors. -/
theorem idle_raises {body : DocumentProg DocumentVersion}
    (idle : traffic.workload.Idle tx body) :
    ∃ error, body = .raise error ∧
      (error = .resourceNotFoundError ∨ ∃ message, error = .valueError message) := by
  have bodies : traffic.workload.bodies tx = (traffic.calls tx).body := rfl
  cases call : traffic.calls tx with
  | create prepared =>
      have body : traffic.workload.bodies tx = create prepared := by
        rw [bodies, call]
        rfl
      cases built : prepared.toVersion 1 with
      | error error =>
          obtain ⟨message, rfl⟩ := DocumentVersion.ofModel_error built
          rw [create_refused built] at body
          cases idle with
          | refused terminal => exact ⟨_, body, .inr ⟨message, rfl⟩⟩
          | away locks unguarded =>
              rw [locks.body] at body
              cases body
      | ok version =>
          rw [create_eq built] at body
          cases idle with
          | refused terminal =>
              rw [body] at terminal
              cases terminal
          | away locks unguarded =>
              rw [locks.body] at body
              cases body
  | append documentId prepared =>
      have body : traffic.workload.bodies tx = append documentId prepared := by
        rw [bodies, call]
        rfl
      by_cases own : prepared.documentId = documentId
      · rw [append_eq own] at body
        cases idle with
        | refused terminal =>
            rw [body] at terminal
            cases terminal
        | away locks unguarded =>
            rw [locks.body] at body
            cases body
            exact ⟨_, rfl, .inl rfl⟩
      · rw [append, if_pos own] at body
        cases idle with
        | refused terminal => exact ⟨_, body, .inr ⟨_, rfl⟩⟩
        | away locks unguarded =>
            rw [locks.body] at body
            cases body

/-- The commit of a transaction brings in its version, as the next one of its document. -/
structure Grown (traffic : DocumentTraffic) (s s' : DocumentSys) (tx : TxId)
    (version : DocumentVersion) : Prop where
  own : version.documentId = (traffic.calls tx).documentId
  named : version.id = (traffic.calls tx).prepared.id
  number : version.version =
    (history (committedRows (traffic.calls tx).documentId s)).length + 1
  extended : history (committedRows (traffic.calls tx).documentId s') =
    history (committedRows (traffic.calls tx).documentId s) ++ [version.toDocumentVersionModel]
  stored : Stored (traffic.calls tx).documentId
    (committedRows (traffic.calls tx).documentId s')
  /-- Only a creation starts from nothing. -/
  started : (∃ prepared, traffic.calls tx = .create prepared) ∨
    committedRows (traffic.calls tx).documentId s ≠ []
  others : ∀ documentId, (traffic.calls tx).documentId ≠ documentId →
    committedRows documentId s' = committedRows documentId s

section Moves

variable {s s' : DocumentSys}

/-- **A commit is one atomic append.** -/
theorem Progress.grown (progress : Progress traffic s) (moves : traffic.workload.Moves s s' tx)
    {version : DocumentVersion} (status : s'.status tx = .committed version) :
    Grown traffic s s' tx version := by
  cases moves.outcome with
  | quiet rows still =>
      rw [status] at still
      cases still
  | crashed rows status' =>
      rw [status] at status'
      cases status'
  | idle idle outside rows ended =>
      obtain ⟨error, rfl, _⟩ := idle_raises idle
      rcases ended with ⟨result, returned, _⟩ | ⟨error, _, status'⟩
      · cases returned
      · rw [status] at status'
        cases status'
  | raised error inside status' serial rows =>
      rw [status] at status'
      cases status'
  | committed result inside status' serial others =>
      rw [status] at status'
      cases status'
      have effect := progress.effect moves.wasOpen
      rw [serial] at effect
      have key : traffic.workload.committedIn (traffic.workload.key tx) s'.table =
        committedRows (traffic.calls tx).documentId s' := rfl
      rw [key] at effect
      generalize after : committedRows (traffic.calls tx).documentId s' = rows at effect
      cases effect with
      | created prepared call none _ fields =>
          have isKey : (traffic.calls tx).documentId = prepared.documentId := by rw [call]; rfl
          have isPrepared : (traffic.calls tx).prepared = prepared := by rw [call]; rfl
          refine ⟨?_, ?_, ?_, ?_, ?_, .inl ⟨prepared, call⟩, others⟩
          · rw [fields, isKey]
            rfl
          · rw [fields, isPrepared]
            rfl
          · rw [none, fields]
            rfl
          · rw [none, after]
            rfl
          · rw [after, isKey]
            exact Stored.create fields
      | appended documentId prepared call own effect =>
          have isKey : (traffic.calls tx).documentId = documentId := by rw [call]; rfl
          have isPrepared : (traffic.calls tx).prepared = prepared := by rw [call]; rfl
          cases effect with
          | appended nonempty new _ fields =>
              have stored := progress.stored (traffic.calls tx).documentId
              have own' : prepared.documentId = (traffic.calls tx).documentId := own.trans isKey.symm
              refine ⟨?_, ?_, ?_, ?_, ?_, .inr nonempty, others⟩
              · rw [fields]
                exact own'
              · rw [fields, isPrepared]
                rfl
              · rw [fields]
                rfl
              · rw [after]
                cases stored with
                | absent none => exact absurd none nonempty
                | present _ _ _ _ _ _ ledger => exact history_append ledger fields
              · rw [after]
                exact stored.append nonempty own' new fields

/-- **Everything but a commit leaves all documents alone.** -/
theorem rows_of_not_committed (moves : traffic.workload.Moves s s' tx)
    (status : ∀ version, s'.status tx ≠ .committed version) (documentId : String) :
    committedRows documentId s' = committedRows documentId s := by
  cases moves.outcome with
  | quiet rows still => exact rows documentId
  | crashed rows status' => exact rows documentId
  | idle idle outside rows ended => exact rows documentId
  | raised error inside status' serial rows => exact rows documentId
  | committed result inside status' serial others => exact absurd status' (status result)

theorem mem_committedVersions {version : DocumentVersionModel} :
    version ∈ documentVersions.rows (Table.committedRows s.table) ↔
      version ∈ history (committedRows version.documentId s) := by
  rw [mem_history, documentVersions.mem_rows, documentVersions.mem_rows, committedRows, rowsOf,
    List.mem_filter]
  exact (and_iff_left (decide_eq_true rfl)).symm

/-- A transaction ends with the version conflict in no run. -/
theorem Progress.not_aborted (progress : Progress traffic s)
    (moves : traffic.workload.Moves s s' tx) :
    s'.status tx ≠ .aborted (some versionConflict) := by
  intro aborted
  cases moves.outcome with
  | quiet rows still =>
      rw [aborted] at still
      cases still
  | crashed rows status =>
      rw [aborted] at status
      cases status
  | idle idle outside rows ended =>
      obtain ⟨error, rfl, isError⟩ := idle_raises idle
      rcases ended with ⟨result, returned, _⟩ | ⟨error', raised, status⟩
      · cases returned
      · cases raised
        rw [aborted] at status
        cases status
        rcases isError with notFound | ⟨message, value⟩
        · cases notFound
        · cases value
  | committed result inside status serial others =>
      rw [aborted] at status
      cases status
  | raised error inside status serial rows =>
      rw [aborted] at status
      cases status
      exact progress.serial_ne moves.wasOpen serial

/-- A move that commits nothing keeps what holds. -/
theorem Progress.of_not_committed (progress : Progress traffic s)
    (moves : traffic.workload.Moves s s' tx)
    (status : ∀ version, s'.status tx ≠ .committed version) : Progress traffic s' := by
  have same := rows_of_not_committed moves status
  have wasOpen : ∀ other, (s'.status other).isOpen = true → (s.status other).isOpen = true := by
    intro other isOpen
    by_cases isMover : other = tx
    · rw [isMover]
      exact moves.wasOpen
    · rwa [moves.others other isMover] at isOpen
  refine ⟨fun documentId => ?_, fun other isOpen old member => ?_,
    fun other prepared call isOpen => ?_, fun other => ?_⟩
  · rw [same documentId]
    exact progress.stored documentId
  · refine progress.fresh other (wasOpen other isOpen) old ?_
    rw [mem_committedVersions, ← same]
    exact mem_committedVersions.mp member
  · rw [same]
    exact progress.pending other prepared call (wasOpen other isOpen)
  · by_cases isMover : other = tx
    · rw [isMover]
      exact progress.not_aborted moves
    · rw [moves.others other isMover]
      exact progress.noConflict other

/-- A commit keeps what holds. -/
theorem Progress.of_committed (progress : Progress traffic s)
    (moves : traffic.workload.Moves s s' tx) {version : DocumentVersion}
    (status : s'.status tx = .committed version) : Progress traffic s' := by
  have grown := progress.grown moves status
  have notMover : ∀ other, (s'.status other).isOpen = true → other ≠ tx := by
    rintro other isOpen rfl
    rw [status] at isOpen
    cases isOpen
  refine ⟨fun documentId => ?_, fun other isOpen old member => ?_,
    fun other prepared call isOpen => ?_, fun other => ?_⟩
  · by_cases isKey : (traffic.calls tx).documentId = documentId
    · rw [← isKey]
      exact grown.stored
    · rw [grown.others documentId isKey]
      exact progress.stored documentId
  · have different := notMover other isOpen
    rw [moves.others other different] at isOpen
    have inHistory := mem_committedVersions.mp member
    by_cases isKey : (traffic.calls tx).documentId = old.documentId
    · rw [← isKey, grown.extended] at inHistory
      rcases List.mem_append.mp inHistory with before | isLast
      · rw [isKey] at before
        exact progress.fresh other isOpen old (mem_committedVersions.mpr before)
      · rw [List.mem_singleton.mp isLast, grown.named]
        exact fun same => different (traffic.distinctVersions tx other same).symm
    · rw [grown.others old.documentId isKey] at inHistory
      exact progress.fresh other isOpen old (mem_committedVersions.mpr inHistory)
  · have different := notMover other isOpen
    rw [moves.others other different] at isOpen
    have none := progress.pending other prepared call isOpen
    rw [grown.others prepared.documentId, none]
    intro isKey
    rcases grown.started with ⟨prepared', call'⟩ | nonempty
    · rw [call'] at isKey
      exact different (traffic.soleDocuments tx other prepared' prepared call' call isKey).symm
    · rw [isKey] at nonempty
      exact nonempty none
  · by_cases isMover : other = tx
    · rw [isMover]
      exact progress.not_aborted moves
    · rw [moves.others other isMover]
      exact progress.noConflict other

/-- **Every move keeps what holds throughout a run.** -/
theorem Progress.step (progress : Progress traffic s) (moves : traffic.workload.Moves s s' tx) :
    Progress traffic s' := by
  by_cases commits : ∃ version, s'.status tx = .committed version
  · obtain ⟨version, status⟩ := commits
    exact progress.of_committed moves status
  · exact progress.of_not_committed moves fun version status => commits ⟨version, status⟩

/-! ## Append-only histories -/

/-- Transaction `tx` has locked the row of the document. -/
def Locked (documentId : String) (tx : TxId) (s : DocumentSys) : Prop :=
  ∃ (i : ℕ) (slot : Slot DocumentRow) (model : DocumentModel), s.table[i]? = some slot ∧
    slot.owner = some tx ∧ slot.committed = some (documents.make model) ∧ model.id = documentId

/-- An append that has locked its document ends with a duplicate exactly if its
content is committed for the document. -/
theorem Progress.duplicate_iff (progress : Progress traffic s) (inv : traffic.workload.Inv s)
    (moves : traffic.workload.Moves s s' tx) {documentId : String}
    {prepared : PreparedDocumentVersion} (call : traffic.calls tx = .append documentId prepared)
    (locked : Locked documentId tx s) (ended : (s'.status tx).isOpen = false)
    (notCrashed : s'.status tx ≠ .aborted none) :
    s'.status tx = .aborted (some .duplicateDocumentContentError) ↔
      prepared.fileHash ∈
        (history (committedRows documentId s)).map DocumentVersionModel.fileHash := by
  obtain ⟨i, slot, model, at_i, owned, committed, named⟩ := locked
  have inside := (inv.table.held i slot tx at_i owned).1
  have nonempty : committedRows documentId s ≠ [] := by
    refine List.ne_nil_of_mem (List.mem_filter.mpr
      ⟨Table.mem_committedRows.mpr ⟨slot, List.mem_of_getElem? at_i, committed⟩, ?_⟩)
    exact decide_eq_true named
  have isKey : (traffic.calls tx).documentId = documentId := by rw [call]; rfl
  have effect := progress.effect moves.wasOpen
  rw [isKey] at effect
  cases moves.outcome with
  | quiet rows still =>
      rw [ended] at still
      cases still
  | crashed rows status => exact absurd status notCrashed
  | idle idle outside rows ended => exact absurd inside outside
  | committed result inside status serial others =>
      rw [serial] at effect
      generalize traffic.workload.committedIn (traffic.workload.key tx) s'.table = rows' at effect
      rw [status]
      cases effect with
      | created prepared' call' => rw [call] at call'; cases call'
      | appended documentId' prepared' call' own effect =>
          rw [call] at call'
          cases call'
          cases effect with
          | appended nonempty new _ fields => exact ⟨nofun, fun repeated => absurd repeated new⟩
  | raised error inside status serial rows =>
      generalize traffic.workload.serial tx s.table = outcome at effect serial
      rw [status]
      cases effect with
      | created prepared' call' => rw [call] at call'; cases call'
      | appended documentId' prepared' call' own effect =>
          rw [call] at call'
          cases call'
          cases effect with
          | missing none => exact absurd none nonempty
          | duplicate _ repeated =>
              cases serial
              exact ⟨fun _ => repeated, fun _ => rfl⟩
          | refused _ new message =>
              cases serial
              exact ⟨nofun, fun repeated => absurd repeated new⟩
          | appended _ new _ fields => cases serial
      | refused terminal message => exact absurd terminal (inv.not_terminal inside)

end Moves

/-- **Histories are append-only.**  In every reachable state the rows of each
document are a valid aggregate.  A commit extends the history of its document by
exactly one version, the next one, and leaves every other document alone;
nothing else changes any document.  An append that has locked its document fails
as a duplicate exactly if its content is committed.  Nobody ever gets a version
conflict. -/
theorem append_only (traffic : DocumentTraffic) (labels : List Label) (s : DocumentSys)
    (ran : traffic.workload.start.run documentConflict labels = some s) :
    (∀ documentId, committedRows documentId s ≠ [] →
      ∃ document, Document.load documentId (history (committedRows documentId s)) =
        .ok document) ∧
    (∀ tx action s', s.step documentConflict (tx, action) = some s' →
      (∀ version, s'.status tx = .committed version →
        version.documentId = (traffic.calls tx).documentId ∧
        version.version = (history (committedRows version.documentId s)).length + 1 ∧
        history (committedRows version.documentId s') =
          history (committedRows version.documentId s) ++ [version.toDocumentVersionModel] ∧
        ∀ documentId, version.documentId ≠ documentId →
          committedRows documentId s' = committedRows documentId s) ∧
      ((∀ version, s'.status tx ≠ .committed version) → ∀ documentId,
        committedRows documentId s' = committedRows documentId s) ∧
      ∀ documentId prepared, traffic.calls tx = .append documentId prepared →
        Locked documentId tx s → (s'.status tx).isOpen = false → s'.status tx ≠ .aborted none →
          (s'.status tx = .aborted (some .duplicateDocumentContentError) ↔
            prepared.fileHash ∈
              (history (committedRows documentId s)).map DocumentVersionModel.fileHash)) ∧
    ∀ tx, s.status tx ≠ .running (.raise versionConflict) ∧
      s.status tx ≠ .aborted (some versionConflict) := by
  obtain ⟨inv, progress⟩ := (Workload.Guarded.inv_start traffic.guarded).run_induction
    traffic.guarded (fun _ progress moves => progress.step moves) (progress_start traffic) ran
  refine ⟨fun documentId nonempty => ?_, fun tx action s' stepped => ?_, fun tx => ⟨?_, ?_⟩⟩
  · obtain ⟨document, loaded, _⟩ := (progress.stored documentId).load nonempty
    exact ⟨document, loaded⟩
  · have moves : traffic.workload.Moves s s' tx :=
      ⟨Sys.isOpen_of_step stepped, (inv.step traffic.guarded stepped).2,
        fun other different => Sys.status_of_ne stepped different⟩
    refine ⟨fun version status => ?_, rows_of_not_committed moves,
      fun documentId prepared call locked ended notCrashed =>
        progress.duplicate_iff inv moves call locked ended notCrashed⟩
    have grown := progress.grown moves status
    refine ⟨grown.own, ?_, ?_, ?_⟩
    · rw [grown.own]
      exact grown.number
    · rw [grown.own]
      exact grown.extended
    · rw [grown.own]
      exact grown.others
  · intro raising
    rcases inv.raising raising with idle | ⟨_, serial⟩
    · obtain ⟨error, same, notFound | ⟨message, value⟩⟩ := idle_raises idle
      · rw [notFound] at same
        cases same
      · rw [value] at same
        cases same
    · refine progress.serial_ne ?_ serial
      rw [raising]
      rfl
  · exact progress.noConflict tx

/-- A version that anybody could upload. -/
def uploaded (id fileHash : String) : PreparedDocumentVersion where
  id := id
  documentId := "document"
  name := "tender.pdf"
  fileUrl := "minio://bucket/raw/" ++ fileHash
  normalizedPdfUrl := "minio://bucket/raw/" ++ fileHash
  fileFormat := .pdf
  fileHash := fileHash
  normalizedPdfHash := fileHash
  uploadedAt := ⟨0, some 0⟩
  expiresAt := none
  pageCount := 10
  parserVersion := "document-metadata-v1"
  parseDurationMs := 30

/-- Sixty-four times the same digit. -/
def repeatedDigit (digit : Char) : String := String.ofList (List.replicate 64 digit)

/-- Transaction 0 creates a document, transaction 1 appends another content, and
everybody else appends the first content again. -/
def duplicateTraffic : DocumentTraffic where
  database := []
  documentIds := List.nodup_nil
  stored documentId := .absent rfl
  calls tx :=
    let id := String.ofList (List.replicate tx 'v')
    if tx = 0 then .create (uploaded id (repeatedDigit 'a'))
    else if tx = 1 then .append "document" (uploaded id (repeatedDigit 'b'))
    else .append "document" (uploaded id (repeatedDigit 'a'))
  freshDocuments tx prepared call := rfl
  soleDocuments tx other prepared prepared' call call' _ := by
    have onlyFirst : ∀ tx id prepared, (if tx = 0 then DocumentCall.create
        (uploaded id (repeatedDigit 'a')) else if tx = 1 then
        .append "document" (uploaded id (repeatedDigit 'b')) else
        .append "document" (uploaded id (repeatedDigit 'a'))) = .create prepared → tx = 0 := by
      intro tx id prepared call
      split at call
      · assumption
      · split at call <;> cases call
    rw [onlyFirst tx _ prepared call, onlyFirst other _ prepared' call']
  freshVersions tx old member := nomatch member
  distinctVersions tx other same := by
    have named : ∀ (tx : TxId) (id : String), (if tx = 0 then DocumentCall.create
        (uploaded id (repeatedDigit 'a')) else if tx = 1 then
        .append "document" (uploaded id (repeatedDigit 'b')) else
        .append "document" (uploaded id (repeatedDigit 'a'))).prepared.id = id := by
      intro tx id
      split
      · rfl
      · split <;> rfl
    have sameName : String.ofList (List.replicate tx 'v') = String.ofList (List.replicate other 'v') :=
      (named tx _).symm.trans (same.trans (named other _))
    simpa using congrArg (fun name => name.toList.length) sameName

/-- The document is created; both appends wait for its row, and transaction 1
gets it first. -/
def duplicateLabels : List Label :=
  [(0, .advance), (0, .advance), (0, .advance), (1, .advance), (2, .advance), (1, .visit 0),
    (1, .advance), (1, .advance), (1, .advance), (1, .advance), (1, .advance), (2, .visit 0),
    (2, .advance), (2, .advance)]

/-- The system when transaction 2 is about to fail, and when it has failed. -/
def duplicateRun : DocumentSys × DocumentSys :=
  ((duplicateTraffic.workload.start.run documentConflict duplicateLabels).bind fun s =>
    (s.step documentConflict (2, .advance)).map fun s' => (s, s')).get (by decide +kernel)

theorem append_only_duplicateTraffic :
    (history (committedRows "document" duplicateRun.1)).length = 2 ∧
      (∃ document, Document.load "document"
        (history (committedRows "document" duplicateRun.1)) = .ok document) ∧
      ∀ documentId, committedRows documentId duplicateRun.2 =
        committedRows documentId duplicateRun.1 := by
  obtain ⟨s, ran, later⟩ := Option.bind_eq_some_iff.mp (Option.some_get _).symm
  obtain ⟨s', stepped, both⟩ := Option.map_eq_some_iff.mp later
  have both' : (s, s') = duplicateRun := both
  rw [← both']
  obtain ⟨valid, steps, _⟩ := append_only duplicateTraffic duplicateLabels s ran
  have facts : (history (committedRows "document" duplicateRun.1)).length = 2 ∧
      (duplicateRun.2.status 2).result = none := by decide +kernel
  rw [← both'] at facts
  refine ⟨facts.1, valid "document" ?_, (steps 2 .advance s' stepped).2.1 fun version committed => ?_⟩
  · intro none
    have impossible := facts.1
    rw [none] at impossible
    cases impossible
  · rw [Status.result_eq_some.mpr committed] at facts
    cases facts.2

/-- **A committed append does what `Document.append` does.** -/
theorem refines_append (traffic : DocumentTraffic) (labels : List Label) (s s' : DocumentSys)
    (ran : traffic.workload.start.run documentConflict labels = some s) (tx : TxId)
    (action : Action) (stepped : s.step documentConflict (tx, action) = some s')
    (version : DocumentVersion) (committed : s'.status tx = .committed version)
    (document : Document) (loaded : Document.load version.documentId
      (history (committedRows version.documentId s)) = .ok document) :
    Document.load version.documentId (history (committedRows version.documentId s')) =
      document.append version := by
  obtain ⟨inv, progress⟩ := (Workload.Guarded.inv_start traffic.guarded).run_induction
    traffic.guarded (fun _ progress moves => progress.step moves) (progress_start traffic) ran
  have grown := progress.grown ⟨Sys.isOpen_of_step stepped, (inv.step traffic.guarded stepped).2,
    fun other different => Sys.status_of_ne stepped different⟩ committed
  have extended := grown.extended
  rw [← grown.own] at extended
  rw [extended, Document.load_concat loaded]

end DocumentTraffic

end BidSystem.Documents
