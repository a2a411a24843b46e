import BidSystem.Shared.Python
import Mathlib.Data.Set.Function
import Mathlib.Tactic.SplitIfs

/-!
# Rate-limit keys

`RateLimitKey`: the keys of the counters, built by joining their parts with colons.  The
parts of a key may hold colons themselves, such as those of an IPv6 address.

* `append_cons_inj_of_count` — where a text joined by a separator can be split.
* `key_eq_and_colonsAlike_iff` — which requests share a counter: those of one identity, and
  those that move a colon from one identifier to another.
-/

namespace BidSystem.Security

/-! ## Texts joined by a separator -/

/-- Joined texts with equally many separators in front are split at the same place. -/
theorem append_cons_inj_of_count {α : Type} [BEq α] [LawfulBEq α] {separator : α}
    {front front' back back' : List α}
    (same : front ++ separator :: back = front' ++ separator :: back')
    (count : front.count separator = front'.count separator) :
    front = front' ∧ back = back' := by
  -- The induction is on the first front; the other one cannot end before or after it.
  induction front generalizing front' with
  | nil =>
      rcases front' with _ | ⟨head, rest⟩
      · exact ⟨rfl, (List.cons.inj same).2⟩
      · rw [(List.cons.inj same).1, List.count_cons_self] at count
        exact absurd count (by simp)
  | cons head front ih =>
      rcases front' with _ | ⟨head', front'⟩
      · rw [(List.cons.inj same).1, List.count_cons_self] at count
        exact absurd count (by simp)
      · obtain ⟨rfl, rest⟩ := List.cons.inj same
        rw [List.count_cons, List.count_cons, Nat.add_right_cancel_iff] at count
        obtain ⟨rfl, rfl⟩ := ih rest count
        exact ⟨rfl, rfl⟩

/-! ## The keys -/

/-- `str.encode("utf-8")`. -/
def encodeUtf8 (value : String) : List UInt8 := value.toUTF8.data.toList

theorem encodeUtf8_injective : Function.Injective encodeUtf8 := by
  intro value value' same
  exact String.toByteArray_inj.1 (ByteArray.ext (Array.toList_inj.1 same))

/-- What the keys take from Python, any functions: `str.casefold` and
`hashlib.sha256(..).hexdigest()`. -/
structure KeyServices where
  casefold : String → String
  sha256 : List UInt8 → String

/-- The `normalized_identifier` of an account. -/
def KeyServices.normalizedIdentifier (services : KeyServices) (accountIdentifier : String) :
    String :=
  services.casefold (strip accountIdentifier)

namespace RateLimitKey

/-- `RateLimitKey.login`. -/
def login (services : KeyServices) (clientIp accountIdentifier : String) :
    Except PyError String :=
  let normalizedIdentifier := services.normalizedIdentifier accountIdentifier
  if blank clientIp ∨ normalizedIdentifier = "" then
    .error (.valueError "Login rate-limit key inputs must not be blank")
  else
    let identifierDigest := services.sha256 (encodeUtf8 normalizedIdentifier)
    .ok ("security:rate:login:" ++ clientIp ++ ":" ++ identifierDigest)

/-- `RateLimitKey.sensitive`. -/
def sensitive (tenantId actorId action : String) : Except PyError String :=
  if [tenantId, actorId, action].any blank then
    .error (.valueError "Sensitive rate-limit key inputs must not be blank")
  else .ok ("security:rate:sensitive:" ++ tenantId ++ ":" ++ actorId ++ ":" ++ action)

/-- `RateLimitKey.refresh`. -/
def refresh (clientIp tokenDigest : String) : Except PyError String :=
  if blank clientIp ∨ blank tokenDigest then
    .error (.valueError "Refresh rate-limit key inputs must not be blank")
  else .ok ("security:rate:refresh:" ++ clientIp ++ ":" ++ tokenDigest)

end RateLimitKey

/-- A call of one of the builders. -/
inductive KeyRequest where
  | login (clientIp accountIdentifier : String)
  | sensitive (tenantId actorId action : String)
  | refresh (clientIp tokenDigest : String)
deriving DecidableEq, Repr

namespace KeyRequest

/-- What the builder answers. -/
def key (services : KeyServices) : KeyRequest → Except PyError String
  | login clientIp accountIdentifier => RateLimitKey.login services clientIp accountIdentifier
  | sensitive tenantId actorId action => RateLimitKey.sensitive tenantId actorId action
  | refresh clientIp tokenDigest => RateLimitKey.refresh clientIp tokenDigest

/-- The requests are of one builder and one identity. -/
def SameIdentity (services : KeyServices) : KeyRequest → KeyRequest → Prop
  | login clientIp account, login clientIp' account' => clientIp = clientIp' ∧
      services.normalizedIdentifier account = services.normalizedIdentifier account'
  | sensitive tenantId actorId action, sensitive tenantId' actorId' action' =>
      tenantId = tenantId' ∧ actorId = actorId' ∧ action = action'
  | refresh clientIp tokenDigest, refresh clientIp' tokenDigest' =>
      clientIp = clientIp' ∧ tokenDigest = tokenDigest'
  | _, _ => False

/-- The number of colons of a text. -/
def colons (value : String) : ℕ := value.toList.count ':'

/-- The identifiers of two sensitive requests have equally many colons, each with its own. -/
def ColonsAlike : KeyRequest → KeyRequest → Prop
  | sensitive tenantId actorId _, sensitive tenantId' actorId' _ =>
      colons tenantId = colons tenantId' ∧ colons actorId = colons actorId'
  | _, _ => True

/-- A text of 64 hex digits. -/
def HexDigest (digest : String) : Prop :=
  digest.toList.length = 64 ∧ ∀ character ∈ digest.toList, character ∈ "0123456789abcdef".toList

/-- What a request hashes is among the contents, and the digest it is given is one. -/
def Digested (services : KeyServices) (contents : Set (List UInt8)) : KeyRequest → Prop
  | login _ account => encodeUtf8 (services.normalizedIdentifier account) ∈ contents
  | sensitive _ _ _ => True
  | refresh _ tokenDigest => HexDigest tokenDigest

/-! ### The text of a key -/

/-- The name of the builder. -/
def builder : KeyRequest → String
  | login _ _ => "login:"
  | sensitive _ _ _ => "sensitive:"
  | refresh _ _ => "refresh:"

/-- The identity in a key. -/
def identity (services : KeyServices) : KeyRequest → List Char
  | login clientIp account => clientIp.toList ++
      ':' :: (services.sha256 (encodeUtf8 (services.normalizedIdentifier account))).toList
  | sensitive tenantId actorId action => tenantId.toList ++
      ':' :: (actorId.toList ++ ':' :: action.toList)
  | refresh clientIp tokenDigest => clientIp.toList ++ ':' :: tokenDigest.toList

variable {services : KeyServices}

theorem toList_of_key {request : KeyRequest} {key : String}
    (built : request.key services = .ok key) :
    key.toList = "security:rate:".toList ++ (request.builder.toList ++ request.identity services) := by
  rcases request with ⟨clientIp, account⟩ | ⟨tenantId, actorId, action⟩ | ⟨clientIp, tokenDigest⟩
  · simp only [KeyRequest.key, RateLimitKey.login] at built
    split_ifs at built
    rw [← Except.ok.inj built]
    simp [builder, identity, String.toList_append]
  · simp only [KeyRequest.key, RateLimitKey.sensitive] at built
    split_ifs at built
    rw [← Except.ok.inj built]
    simp [builder, identity, String.toList_append]
  · simp only [KeyRequest.key, RateLimitKey.refresh] at built
    split_ifs at built
    rw [← Except.ok.inj built]
    simp [builder, identity, String.toList_append]

theorem key_eq_iff {request request' : KeyRequest} {key key' : String}
    (built : request.key services = .ok key) (built' : request'.key services = .ok key') :
    key = key' ↔ request.builder.toList ++ request.identity services =
      request'.builder.toList ++ request'.identity services := by
  rw [← String.toList_inj, toList_of_key built, toList_of_key built', List.append_cancel_left_eq]

/-- An address and a digest are split where the digest begins. -/
theorem address_digest_inj {clientIp clientIp' digest digest' : String}
    (length : digest.toList.length = 64) (length' : digest'.toList.length = 64)
    (same : clientIp.toList ++ ':' :: digest.toList = clientIp'.toList ++ ':' :: digest'.toList) :
    clientIp = clientIp' ∧ digest = digest' := by
  obtain ⟨addresses, rest⟩ := List.append_inj' same (by
    rw [List.length_cons, List.length_cons, length, length'])
  exact ⟨String.toList_inj.1 addresses, String.toList_inj.1 (List.cons.inj rest).2⟩

/-- **Requests with one key are of one identity**, unless two sensitive requests move a colon
from one identifier to another. -/
theorem sameIdentity_of_key_eq (digests : ∀ content, HexDigest (services.sha256 content))
    {contents : Set (List UInt8)} (collisionFree : Set.InjOn services.sha256 contents)
    {request request' : KeyRequest} (digested : request.Digested services contents)
    (digested' : request'.Digested services contents)
    (same : request.builder.toList ++ request.identity services =
      request'.builder.toList ++ request'.identity services)
    (alike : request.ColonsAlike request') : request.SameIdentity services request' := by
  rcases request with ⟨clientIp, account⟩ | ⟨tenantId, actorId, action⟩ | ⟨clientIp, tokenDigest⟩ <;>
    rcases request' with
      ⟨clientIp', account'⟩ | ⟨tenantId', actorId', action'⟩ | ⟨clientIp', tokenDigest'⟩
  case login.login =>
    obtain ⟨addresses, hashes⟩ := address_digest_inj (digests _).1 (digests _).1
      (List.append_cancel_left same)
    exact ⟨addresses, encodeUtf8_injective (collisionFree digested digested' hashes)⟩
  case sensitive.sensitive =>
    obtain ⟨tenants, rest⟩ := append_cons_inj_of_count (List.append_cancel_left same) alike.1
    obtain ⟨actors, actions⟩ := append_cons_inj_of_count rest alike.2
    exact ⟨String.toList_inj.1 tenants, String.toList_inj.1 actors, String.toList_inj.1 actions⟩
  case refresh.refresh =>
    exact address_digest_inj digested.1 digested'.1 (List.append_cancel_left same)
  -- The builders' names differ in their first letter.
  all_goals
    exact absurd (congrArg List.head? same) (by simp [builder])

/-- **Which requests share a counter.** -/
theorem key_eq_and_colonsAlike_iff (digests : ∀ content, HexDigest (services.sha256 content))
    {contents : Set (List UInt8)} (collisionFree : Set.InjOn services.sha256 contents)
    {request request' : KeyRequest} (digested : request.Digested services contents)
    (digested' : request'.Digested services contents) {key key' : String}
    (built : request.key services = .ok key) (built' : request'.key services = .ok key') :
    key = key' ∧ request.ColonsAlike request' ↔ request.SameIdentity services request' := by
  rw [key_eq_iff built built']
  constructor
  · rintro ⟨same, alike⟩
    exact sameIdentity_of_key_eq digests collisionFree digested digested' same alike
  · intro same
    rcases request with ⟨clientIp, account⟩ | ⟨tenantId, actorId, action⟩ | ⟨clientIp, digest⟩ <;>
      rcases request' with
        ⟨clientIp', account'⟩ | ⟨tenantId', actorId', action'⟩ | ⟨clientIp', digest'⟩
    case login.login =>
      obtain ⟨rfl, accounts⟩ := same
      simp [builder, identity, ColonsAlike, accounts]
    case sensitive.sensitive =>
      obtain ⟨rfl, rfl, rfl⟩ := same
      exact ⟨rfl, rfl, rfl⟩
    case refresh.refresh =>
      obtain ⟨rfl, rfl⟩ := same
      exact ⟨rfl, trivial⟩
    all_goals exact same.elim

/-- A colon can move from the actor to the tenant. -/
theorem shared_counter_of_moved_colon :
    (sensitive "a:b" "c" "d").key { casefold := id, sha256 := fun _ => "" } =
        .ok "security:rate:sensitive:a:b:c:d" ∧
      (sensitive "a" "b:c" "d").key { casefold := id, sha256 := fun _ => "" } =
        .ok "security:rate:sensitive:a:b:c:d" ∧
      ¬(sensitive "a:b" "c" "d").SameIdentity { casefold := id, sha256 := fun _ => "" }
        (sensitive "a" "b:c" "d") := by
  refine ⟨by decide, by decide, fun same => ?_⟩
  exact absurd same.1 (by decide)

/-- The digests of two accounts. -/
def sampleKeyServices : KeyServices where
  casefold := lower
  sha256 content :=
    if content = encodeUtf8 "ann" then
      "49915e0d7d4b402e3017d010bc1c0e83cac6c797d6c16e66340fe3268693a6a1"
    else "81b637d8fcd2c6da6359e6963113a1170de795e4b725b84d1e0b4cfd9ec58ce9"

theorem hexDigest_sampleKeyServices (content : List UInt8) :
    HexDigest (sampleKeyServices.sha256 content) := by
  show HexDigest (if content = encodeUtf8 "ann" then _ else _)
  split_ifs <;> exact ⟨by decide, by decide⟩

/-- Two accounts at one address have counters of their own. -/
theorem counters_of_ann_and_bob : ∃ key key',
    (login "2001:db8::1" " Ann ").key sampleKeyServices = .ok key ∧
      (login "2001:db8::1" "BOB").key sampleKeyServices = .ok key' ∧ key ≠ key' := by
  have collisionFree : Set.InjOn sampleKeyServices.sha256
      {encodeUtf8 "ann", encodeUtf8 "bob"} :=
    Set.injOn_pair.2 fun same => absurd same (by decide)
  have built : (login "2001:db8::1" " Ann ").key sampleKeyServices = .ok
      ("security:rate:login:2001:db8::1:" ++
        "49915e0d7d4b402e3017d010bc1c0e83cac6c797d6c16e66340fe3268693a6a1") := by
    decide
  have built' : (login "2001:db8::1" "BOB").key sampleKeyServices = .ok
      ("security:rate:login:2001:db8::1:" ++
        "81b637d8fcd2c6da6359e6963113a1170de795e4b725b84d1e0b4cfd9ec58ce9") := by
    decide
  have digested : (login "2001:db8::1" " Ann ").Digested sampleKeyServices
      {encodeUtf8 "ann", encodeUtf8 "bob"} := Or.inl (by decide)
  have digested' : (login "2001:db8::1" "BOB").Digested sampleKeyServices
      {encodeUtf8 "ann", encodeUtf8 "bob"} := Or.inr (by decide)
  refine ⟨_, _, built, built', fun same => ?_⟩
  obtain ⟨-, accounts⟩ := (key_eq_and_colonsAlike_iff hexDigest_sampleKeyServices
    collisionFree digested digested' built built').1 ⟨same, trivial⟩
  exact absurd accounts (by decide)

end KeyRequest

end BidSystem.Security
