import BidSystem.Documents.Models

/-!
# Documents version by version

The constructor of `Document` checks a whole history with one loop; `create` and
`append` hand it histories that grow by one version.  Both ways of building a
document accept the same histories and build the same document.
-/

namespace BidSystem.Documents

open AppendOnly

namespace Document

/-- `Document.latest_version`. -/
def latestVersion (document : Document) : DocumentVersion :=
  document.versions.getLast document.valid.1

/-- `create`, and then `append` for each of the other versions. -/
def createAndAppend (documentId : String) (firstVersion : DocumentVersion)
    (versions : List DocumentVersion) : Except PyError Document := do
  versions.foldlM append (← create documentId firstVersion)

theorem createAndAppend_concat (documentId : String) (firstVersion : DocumentVersion)
    (versions : List DocumentVersion) (version : DocumentVersion) :
    createAndAppend documentId firstVersion (versions ++ [version]) =
      createAndAppend documentId firstVersion versions >>= fun document =>
        document.append version := by
  unfold createAndAppend
  cases create documentId firstVersion with
  | error error => rfl
  | ok document =>
      show (versions ++ [version]).foldlM append document = _
      rw [List.foldlM_append]
      congr 1
      funext grown
      rw [List.foldlM_cons]
      cases grown.append version <;> rfl

/-- **The constructor accepts a longer history** if it accepts the history and the
document takes the version. -/
theorem ofVersions_concat {id : String} {versions : List DocumentVersion}
    (nonempty : versions ≠ []) {version : DocumentVersion} {document' : Document} :
    ofVersions id (versions ++ [version]) = .ok document' ↔
      ∃ document, ofVersions id versions = .ok document ∧
        document.append version = .ok document' := by
  constructor
  · intro built
    obtain ⟨sameId, extended⟩ := ofVersions_ok_iff.mp built
    obtain ⟨-, owned, ledger⟩ := document'.valid
    rw [extended] at owned ledger
    have accepted : checkVersions id versions = .ok () := by
      refine checkVersions_ok_iff.mpr ⟨nonempty, fun other member => ?_,
        (Ledger.concat_iff.mp ledger).1⟩
      rw [← sameId]
      exact owned other (List.mem_append_left _ member)
    exact ⟨⟨id, versions, accepted⟩, ofVersions_ok_iff.mpr ⟨rfl, rfl⟩, built⟩
  · rintro ⟨document, built, appended⟩
    obtain ⟨rfl, rfl⟩ := ofVersions_ok_iff.mp built
    exact appended

/-- **Both ways of building a document are the same.** -/
theorem createAndAppend_ok_iff (documentId : String) (firstVersion : DocumentVersion)
    (versions : List DocumentVersion) (document : Document) :
    createAndAppend documentId firstVersion versions = .ok document ↔
      ofVersions documentId (firstVersion :: versions) = .ok document := by
  induction versions using List.reverseRecOn generalizing document with
  | nil =>
      unfold createAndAppend create
      cases ofVersions documentId [firstVersion] <;> rfl
  | append_singleton versions version before =>
      rw [createAndAppend_concat, bind_ok_iff, ← List.cons_append,
        ofVersions_concat (List.cons_ne_nil _ _)]
      exact exists_congr fun shorter => and_congr_left' (before shorter)

/-- **A document grows by one version at a time**: it takes exactly the next
distinct version of its own, keeps those it has, and what `create` and `append`
build is what the constructor builds of the whole list. -/
theorem append_law (document : Document) (version : DocumentVersion) :
    ((∃ document', document.append version = .ok document') ↔
      version.documentId = document.id ∧ version.version = document.versions.length + 1 ∧
        version.fileHash ∉ document.versions.map fun version => version.fileHash) ∧
    (∀ document', document.append version = .ok document' →
      checkVersions document'.id document'.versions = .ok () ∧ document'.id = document.id ∧
        document'.versions = document.versions ++ [version] ∧
        document'.latestVersion = version) ∧
    (∀ id firstVersion versions built, createAndAppend id firstVersion versions = .ok built ↔
      ofVersions id (firstVersion :: versions) = .ok built) ∧
    ∀ id built, ofVersions id [] ≠ .ok built := by
  refine ⟨append_ok_iff, fun document' appended => ?_, createAndAppend_ok_iff, fun id built same => ?_⟩
  · obtain ⟨sameId, extended⟩ := versions_of_append appended
    refine ⟨document'.checked, sameId, extended, ?_⟩
    have last : document'.versions.getLast? = some version := by
      rw [extended]
      exact List.getLast?_concat
    exact (List.getLast_eq_iff_getLast?_eq_some _).mpr last
  · exact built.valid.1 (ofVersions_ok_iff.mp same).2

end Document

end BidSystem.Documents
