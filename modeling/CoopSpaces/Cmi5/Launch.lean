import CoopSpaces.Cmi5.Statement
import CoopSpaces.Lib.Urls

namespace CoopSpaces.Cmi5

/-- The parameters put into the launch URL of an AU. -/
structure LaunchParams (Uuid : Type) where
  endpoint : String
  fetch : String
  actor : Agent
  registration : Uuid
  activityId : String

def hexDigit (n : UInt8) : Char :=
  let d := n &&& 0x0f
  if d ≤ 9 then Char.ofNat (48 + d.toNat) else Char.ofNat (65 + (d.toNat - 10))

/-- The octets of the unreserved characters: letters, digits, and `-`, `.`, `_`, `~`. -/
def isUnreserved (b : UInt8) : Bool :=
  decide (65 ≤ b ∧ b ≤ 90) || decide (97 ≤ b ∧ b ≤ 122) || decide (48 ≤ b ∧ b ≤ 57) || b == 45 || b == 46 ||
    b == 95 || b == 126

def encodeByte (b : UInt8) : List Char :=
  if isUnreserved b then [Char.ofNat b.toNat] else ['%', hexDigit (b >>> 4), hexDigit (b &&& 0x0f)]

/-- Percent-encodes a text for use in a query: everything outside the unreserved set. -/
def encodeComponent (s : String) : List Char := (utf8 s.toList).flatMap encodeByte

section Query
variable {Uuid : Type} [IdText Uuid]

/-- The parameters in the order they are written, the actor as JSON. -/
def LaunchParams.values (params : LaunchParams Uuid) (actorJson : String) : List (String × String) :=
  [("endpoint", params.endpoint), ("fetch", params.fetch), ("actor", actorJson), ("activityId", params.activityId),
    ("registration", IdText.toText params.registration)]

/-- The launch query, without the leading `?`; how an agent is written as JSON is left open. -/
def buildLaunchQuery (toJson : Agent → Except String String) (params : LaunchParams Uuid) :
    Except String (List Char) := do
  let actorJson ← toJson params.actor
  .ok ("endpoint=".toList ++ encodeComponent params.endpoint ++ "&fetch=".toList ++ encodeComponent params.fetch ++
    "&actor=".toList ++ encodeComponent actorJson ++ "&activityId=".toList ++ encodeComponent params.activityId ++
    "&registration=".toList ++ encodeComponent (IdText.toText params.registration))

end Query

/-- Appends a launch query to the `url` of an AU; URLs stand here as the list of their
characters. -/
def appendQuery (auUrl query : List Char) : List Char :=
  auUrl ++ (if '?' ∈ auUrl then '&' else '?') :: query

theorem hexValue_hexDigit (b : UInt8) :
    ∃ high low, hexValue (hexDigit (b >>> 4)) = some high ∧ hexValue (hexDigit (b &&& 0x0f)) = some low ∧
      UInt8.ofNat (16 * high.val + low.val) = b := by
  have all : ∀ n : Fin 256, (do
      let high ← hexValue (hexDigit (UInt8.ofFin n >>> 4))
      let low ← hexValue (hexDigit (UInt8.ofFin n &&& 0x0f))
      some (UInt8.ofNat (16 * high.val + low.val))) = some (UInt8.ofFin n) := by decide +kernel
  have read := all b.toFin
  simp only [UInt8.ofFin_toFin, Option.bind_eq_bind, Option.bind_eq_some_iff, Option.some.injEq] at read
  obtain ⟨high, isHigh, low, isLow, value⟩ := read
  exact ⟨high, low, isHigh, isLow, value⟩

theorem unreserved_char {b : UInt8} (unreserved : isUnreserved b = true) :
    Char.ofNat b.toNat ≠ '%' ∧ String.utf8EncodeChar (Char.ofNat b.toNat) = [b] := by
  have all : ∀ n : Fin 256, isUnreserved (UInt8.ofFin n) = true → Char.ofNat (UInt8.ofFin n).toNat ≠ '%' ∧
      String.utf8EncodeChar (Char.ofNat (UInt8.ofFin n).toNat) = [UInt8.ofFin n] := by decide +kernel
  exact all b.toFin unreserved

theorem percentDecode_encodeByte (b : UInt8) (rest : List Char) :
    Url.percentDecode (encodeByte b ++ rest) = b :: Url.percentDecode rest := by
  unfold encodeByte
  split
  · rename_i unreserved
    obtain ⟨plain, octets⟩ := unreserved_char unreserved
    rw [List.cons_append, List.nil_append, Url.percentDecode_cons plain, octets]
    rfl
  · obtain ⟨high, low, isHigh, isLow, value⟩ := hexValue_hexDigit b
    exact (Url.percentDecode_escape isHigh isLow rest).trans (by rw [value])

theorem percentDecode_encodeComponent (s : String) : Url.percentDecode (encodeComponent s) = utf8 s.toList := by
  have all : ∀ octets : List UInt8, Url.percentDecode (octets.flatMap encodeByte) = octets := by
    intro octets
    induction octets with
    | nil => rfl
    | cons b rest ih => rw [List.flatMap_cons, percentDecode_encodeByte, ih]
  exact all _

theorem not_mem_encodeComponent {mark : Char} (isMark : mark ∈ ['&', '=', '#', '?']) (s : String) :
    mark ∉ encodeComponent s := by
  have all : ∀ n < 256, (encodeByte (UInt8.ofNat n)).all (fun c => c ∉ ['&', '=', '#', '?']) = true := by
    decide +kernel
  intro there
  obtain ⟨b, _, inByte⟩ := List.mem_flatMap.mp there
  have apart := List.all_eq_true.mp (all b.toNat b.toNat_lt) mark
  rw [UInt8.ofNat_toNat] at apart
  exact of_decide_eq_true (apart inByte) isMark

/-- One parameter as it stands in the query. -/
def queryPiece (value : String × String) : List Char := value.1.toList ++ '=' :: encodeComponent value.2

section Query
variable {Uuid : Type} [IdText Uuid] {toJson : Agent → Except String String} {params : LaunchParams Uuid}
    {query : List Char}

theorem launch_names (actorJson : String) : ∀ value ∈ params.values actorJson, ∀ mark ∈ ['&', '=', '#', '?'],
    mark ∉ value.1.toList := by
  have names : ∀ name ∈ ["endpoint", "fetch", "actor", "activityId", "registration"],
      name.toList.all (fun c => c ∉ ['&', '=', '#', '?']) = true := by decide +kernel
  intro value there mark isMark inName
  have listed : (params.values actorJson).map Prod.fst =
    ["endpoint", "fetch", "actor", "activityId", "registration"] := rfl
  have plain := names value.1 (listed ▸ List.mem_map_of_mem there)
  exact of_decide_eq_true (List.all_eq_true.mp plain mark inName) isMark

theorem buildLaunchQuery_eq_ok (built : buildLaunchQuery toJson params = .ok query) :
    ∃ actorJson, toJson params.actor = .ok actorJson ∧
      query = ['&'].intercalate ((params.values actorJson).map queryPiece) := by
  unfold buildLaunchQuery at built
  rcases json : toJson params.actor with failure | actorJson
  · rw [json] at built
    cases built
  · rw [json] at built
    refine ⟨actorJson, rfl, ?_⟩
    cases built
    simp [LaunchParams.values, queryPiece, List.intercalate]

theorem splitOn_launchQuery (actorJson : String) :
    (['&'].intercalate ((params.values actorJson).map queryPiece)).splitOn '&' =
      (params.values actorJson).map queryPiece := by
  refine List.splitOn_intercalate '&' ?_ (by simp [LaunchParams.values])
  intro piece there
  obtain ⟨value, inValues, rfl⟩ := List.mem_map.mp there
  have name := launch_names actorJson value inValues '&' (by decide)
  have encoded : '&' ∉ encodeComponent value.2 := not_mem_encodeComponent (by decide) value.2
  simp [queryPiece, name, encoded]

/-- A parameter as the octets of its name and its value. -/
def octets (value : String × String) : List UInt8 × List UInt8 := (utf8 value.1.toList, utf8 value.2.toList)

def cmi5Names : List String := ["endpoint", "fetch", "actor", "activityId", "registration"]

theorem parameter_queryPiece {name : String} (isName : name ∈ cmi5Names) (value : String) :
    Url.parameter (queryPiece (name, value)) = octets (name, value) := by
  have names : ∀ name ∈ cmi5Names, '=' ∉ name.toList ∧ '%' ∉ name.toList := by decide
  obtain ⟨noEquals, plain⟩ := names name isName
  rw [queryPiece, Url.parameter_join noEquals, Url.percentDecode_of_not_mem plain, percentDecode_encodeComponent]
  rfl

/-- A launch URL from which the five parameters can be read: they stand behind the AU's own,
each by its name and value, no name twice, and the AU's path and fragment are what they were. -/
structure ReadsBack (auUrl launchUrl : List Char) (values : List (String × String)) : Prop where
  path : Url.path launchUrl = Url.path auUrl
  fragment : Url.fragment launchUrl = Url.fragment auUrl
  parameters : Url.parameters launchUrl = Url.parameters auUrl ++ values.map octets
  once : ∀ name ∈ cmi5Names, ((Url.parameters launchUrl).map Prod.fst).count (utf8 name.toList) = 1

theorem appendQuery_of_no_fragment {auUrl : List Char} {values : List (String × String)} (noFragment : '#' ∉ auUrl)
    (plain : '#' ∉ query) (pieces : query.splitOn '&' = values.map queryPiece)
    (named : ∀ value ∈ values, value.1 ∈ cmi5Names) :
    Url.path (appendQuery auUrl query) = Url.path auUrl ∧
      Url.fragment (appendQuery auUrl query) = Url.fragment auUrl ∧
      Url.parameters (appendQuery auUrl query) = Url.parameters auUrl ++ values.map octets := by
  have read : (query.splitOn '&').map Url.parameter = values.map octets := by
    rw [pieces, List.map_map]
    exact List.map_congr_left fun value there => parameter_queryPiece (named value there) value.2
  by_cases hasQuery : '?' ∈ auUrl
  · obtain ⟨front, own, rfl, noQuery⟩ := List.eq_append_cons_of_mem hasQuery
    simp only [List.mem_append, List.mem_cons, not_or] at noFragment
    obtain ⟨frontPlain, _, ownPlain⟩ := noFragment
    have joined : appendQuery (front ++ '?' :: own) query = front ++ '?' :: (own ++ '&' :: query) := by
      rw [appendQuery, if_pos hasQuery, List.append_assoc, List.cons_append]
    have before := Url.parameters_join frontPlain noQuery ownPlain
    have bothPlain : '#' ∉ own ++ '&' :: query := by simp [ownPlain, plain]
    have after := Url.parameters_join frontPlain noQuery bothPlain
    rw [joined, before.1, before.2.1, before.2.2, after.1, after.2.1, after.2.2, List.splitOn_append_cons_self,
      List.map_append, read]
    exact ⟨rfl, rfl, rfl⟩
  · obtain ⟨path, parameters⟩ := Url.parameters_of_not_mem noFragment hasQuery
    obtain ⟨path', fragment', parameters'⟩ := Url.parameters_join noFragment hasQuery plain
    rw [appendQuery, if_neg hasQuery, path, parameters, path', fragment', parameters',
      Url.fragment_of_not_mem noFragment, read]
    exact ⟨rfl, rfl, rfl⟩

/-- A launch URL reads back exactly when the AU's url has no fragment and none of its own
parameters goes by the name of one of the five. -/
theorem launch_url_reads_back_iff {actorJson : String} (json : toJson params.actor = .ok actorJson)
    (auUrl : List Char) :
    ∃ query, buildLaunchQuery toJson params = .ok query ∧
      (ReadsBack auUrl (appendQuery auUrl query) (params.values actorJson) ↔
        '#' ∉ auUrl ∧ ∀ own ∈ Url.parameters auUrl, ∀ name ∈ cmi5Names, own.1 ≠ utf8 name.toList) := by
  obtain ⟨query, built⟩ : ∃ query, buildLaunchQuery toJson params = .ok query := by
    unfold buildLaunchQuery
    rw [json]
    exact ⟨_, rfl⟩
  refine ⟨query, built, ?_⟩
  obtain ⟨actorJson', json', joined⟩ := buildLaunchQuery_eq_ok built
  obtain rfl : actorJson' = actorJson := Except.ok.inj (json'.symm.trans json)
  have names : (params.values actorJson').map Prod.fst = cmi5Names := rfl
  have pieces : query.splitOn '&' = (params.values actorJson').map queryPiece :=
    joined ▸ splitOn_launchQuery actorJson'
  have plain : '#' ∉ query := by
    have encoded : ∀ s, '#' ∉ encodeComponent s := not_mem_encodeComponent (by decide)
    rw [joined]
    simp only [LaunchParams.values, queryPiece, List.map_cons, List.map_nil, List.intercalate,
      List.intersperse, List.flatten_cons, List.flatten_nil, List.mem_append, List.mem_cons, encoded]
    decide
  have fiveOnce : ∀ name ∈ cmi5Names,
      (((params.values actorJson').map octets).map Prod.fst).count (utf8 name.toList) = 1 := by
    have listed : ((params.values actorJson').map octets).map Prod.fst = cmi5Names.map fun name =>
        utf8 name.toList := by
      simp only [LaunchParams.values, octets, cmi5Names, List.map_cons, List.map_nil]
    rw [listed]
    decide
  constructor
  · intro back
    have noFragment : '#' ∉ auUrl := by
      intro there
      obtain ⟨kept, before, after⟩ := Url.fragment_append_of_mem there ((if '?' ∈ auUrl then '&' else '?') :: query)
      have longer := Option.some.inj (after.symm.trans (back.fragment.trans before))
      have lengths := congrArg List.length longer
      simp at lengths
    refine ⟨noFragment, fun own isOwn name isName same => ?_⟩
    have once := back.once name isName
    rw [back.parameters, List.map_append, List.count_append, fiveOnce name isName] at once
    have none_ := List.count_eq_zero.mp
      (by omega : ((Url.parameters auUrl).map Prod.fst).count (utf8 name.toList) = 0)
    exact none_ (same ▸ List.mem_map_of_mem isOwn)
  · rintro ⟨noFragment, others⟩
    obtain ⟨path, fragment, parameters⟩ := appendQuery_of_no_fragment noFragment plain pieces
      fun value there => names ▸ List.mem_map_of_mem there
    refine ⟨path, fragment, parameters, fun name isName => ?_⟩
    rw [parameters, List.map_append, List.count_append, fiveOnce name isName, Nat.add_eq_right]
    refine List.count_eq_zero.mpr fun there => ?_
    obtain ⟨own, isOwn, same⟩ := List.mem_map.mp there
    exact others own isOwn name isName same

end Query

section Learner

def learner : Agent :=
  { objectType := some "Agent", name := none, mbox := none
    account := some { homePage := "https://space.example", name := "learner-1" } }

def learnerLaunch : LaunchParams HexId :=
  { endpoint := "https://space.example/api/cmi5/lrs"
    fetch := "https://space.example/api/cmi5/fetch?token=abc"
    actor := learner
    registration := .repeating 10
    activityId := "http://example.com/au/1" }

def learnerJson : String :=
  "\x7b\"objectType\":\"Agent\",\"account\":\x7b\"homePage\":\"https://space.example\",\"name\":\"learner-1\"\x7d\x7d"

def agentJson (agent : Agent) : Except String String :=
  if agent = learner then .ok learnerJson else .error "not this one"

theorem launch_url_reads_back_iff_page :
    ∃ query, buildLaunchQuery agentJson learnerLaunch = .ok query ∧
      (ReadsBack "index.html?mode=strict".toList (appendQuery "index.html?mode=strict".toList query)
          (learnerLaunch.values learnerJson) ↔
        '#' ∉ "index.html?mode=strict".toList ∧
          ∀ own ∈ Url.parameters "index.html?mode=strict".toList, ∀ name ∈ cmi5Names, own.1 ≠ utf8 name.toList) :=
  launch_url_reads_back_iff (if_pos rfl) _

/-- A url that has a fragment gets the query into the fragment. -/
theorem launch_query_in_fragment :
    ∃ query, buildLaunchQuery agentJson learnerLaunch = .ok query ∧
      ¬ReadsBack "index.html#intro".toList (appendQuery "index.html#intro".toList query)
        (learnerLaunch.values learnerJson) := by
  refine ⟨_, rfl, fun back => ?_⟩
  have pieces := congrArg List.length back.parameters
  revert pieces
  decide +kernel

end Learner

end CoopSpaces.Cmi5
