import CoopSpaces.Lib.Integers
import CoopSpaces.Lib.Text

namespace CoopSpaces

/-- What stands before and after the first mark. -/
def splitOnce (mark : Char) (text : List Char) : Option (List Char × List Char) :=
  match text.dropWhile (· ≠ mark) with
  | [] => none
  | _ :: back => some (text.takeWhile (· ≠ mark), back)

/-- What the parts of the header have named so far. -/
structure StripeHeader where
  timestamp : Option Int64
  signatures : List String

namespace StripeHeader

def readPart (read : StripeHeader) (part : List Char) : StripeHeader :=
  match splitOnce '=' part with
  | none => read
  | some (k, v) =>
    if trim (String.ofList k) = "t" then { read with timestamp := parseInt64 (trim (String.ofList v)) }
    else if trim (String.ofList k) = "v1" then { read with signatures := read.signatures ++ [trim (String.ofList v)] }
    else read

def read (header : String) : StripeHeader := (header.toList.splitOn ',').foldl readPart ⟨none, []⟩

end StripeHeader

/-- The value of a part, if it is of that name. -/
def partValue (name : String) (part : List Char) : Option String :=
  (splitOnce '=' part).bind fun (k, v) =>
    if trim (String.ofList k) = name then some (trim (String.ofList v)) else none

/-- The values that a header gives under a name, in their order. -/
def headerValues (header name : String) : List String :=
  (header.toList.splitOn ',').filterMap (partValue name)

/-- The header's time is its last; one that is no integer leaves the header without. -/
def headerTimestamp (header : String) : Option Int64 := (headerValues header "t").getLast?.bind parseInt64

section
-- HMAC-SHA256, by key and message
variable (hmac : List UInt8 → List UInt8 → List UInt8)

/-- Hex HMAC of the signed payload `"{timestamp}.{body}"`. -/
def signStripe (secret : String) (timestamp : Int64) (body : List UInt8) : String :=
  hexEncode (hmac secret.toByteArray.data.toList
    ((toString timestamp.toInt ++ ".").toByteArray.data.toList ++ body))

/-- Verify a signature header; nothing where the arithmetic panics. -/
def verifyStripeSignature (checks : Bool) (secret : String) (body : List UInt8) (header : String)
    (now tolerance : Int64) : Option Bool :=
  if secret = "" then some false
  else
    let { timestamp, signatures } := StripeHeader.read header
    match timestamp with
    | none => some false
    | some t => do
      let apart ← machineInt64 checks (now.toInt - t.toInt)
      let distance ← machineInt64 checks apart.toInt.natAbs
      if tolerance < distance then some false
      else if signatures = [] then some false
      else
        let expected := signStripe hmac secret t body
        some (signatures.any fun s => constantTimeStrEq expected s)

/-- Some signature of the header is of its time and this body, and that time is near enough over
the integers. -/
def GenuineSignature (secret : String) (body : List UInt8) (header : String) (now tolerance : Int64) : Prop :=
  ∃ t, headerTimestamp header = some t ∧
    (∃ v1 ∈ headerValues header "v1", v1 = signStripe hmac secret t body) ∧
      (now.toInt - t.toInt).natAbs ≤ tolerance.toInt

/-- However the program is built, the check comes to an answer, and the answer is whether the
signature is genuine. -/
def ChecksSignature (secret : String) (body : List UInt8) (header : String) (now tolerance : Int64) : Prop :=
  ∃ accepts : Bool,
    (∀ checks, verifyStripeSignature hmac checks secret body header now tolerance = some accepts) ∧
      (accepts = true ↔ GenuineSignature hmac secret body header now tolerance)

end

namespace StripeHeader

theorem readPart_eq (r : StripeHeader) (part : List Char) :
    readPart r part = ⟨((partValue "t" part).map parseInt64).getD r.timestamp,
      r.signatures ++ (partValue "v1" part).toList⟩ := by
  unfold readPart partValue
  rcases splitOnce '=' part with _ | ⟨k, v⟩
  · simp
  · by_cases isTime : trim (String.ofList k) = "t"
    · simp [isTime]
    · by_cases isSignature : trim (String.ofList k) = "v1"
      · simp [isSignature]
      · simp [isTime, isSignature]

/-- The last time wins, and every signature is kept. -/
theorem foldl_readPart (parts : List (List Char)) (r : StripeHeader) :
    parts.foldl readPart r = ⟨((parts.filterMap (partValue "t")).getLast?.map parseInt64).getD r.timestamp,
      r.signatures ++ parts.filterMap (partValue "v1")⟩ := by
  induction parts generalizing r with
  | nil => simp
  | cons part rest ih =>
    rw [List.foldl_cons, ih, readPart_eq, List.filterMap_cons, List.filterMap_cons]
    congr 1
    · cases partValue "t" part with
      | none => rfl
      | some value =>
        rw [List.getLast?_cons]
        cases (rest.filterMap (partValue "t")).getLast? with
        | none => rfl
        | some last => rfl
    · cases partValue "v1" part with
      | none => simp
      | some value => simp

theorem read_eq (header : String) : read header = ⟨headerTimestamp header, headerValues header "v1"⟩ := by
  rw [read, foldl_readPart, headerTimestamp, headerValues, headerValues, List.nil_append]
  cases (((header.toList.splitOn ',').filterMap (partValue "t")).getLast?) with
  | none => rfl
  | some last => rfl

end StripeHeader

section
variable {hmac : List UInt8 → List UInt8 → List UInt8} {checks : Bool} {secret header : String} {body : List UInt8}
  {now tolerance t : Int64}

theorem verifyStripeSignature_of_untimed (known : secret ≠ "") (untimed : headerTimestamp header = none) :
    verifyStripeSignature hmac checks secret body header now tolerance = some false := by
  rw [verifyStripeSignature, if_neg known, StripeHeader.read_eq, untimed]

theorem verifyStripeSignature_of_timed (known : secret ≠ "") (timed : headerTimestamp header = some t) :
    verifyStripeSignature hmac checks secret body header now tolerance =
      (machineInt64 checks (now.toInt - t.toInt)).bind fun apart =>
        (machineInt64 checks apart.toInt.natAbs).map fun distance =>
          decide (distance ≤ tolerance) && decide (signStripe hmac secret t body ∈ headerValues header "v1") := by
  rw [verifyStripeSignature, if_neg known, StripeHeader.read_eq, timed]
  show Option.bind _ _ = _
  congr 1
  funext apart
  show Option.bind _ _ = _
  rw [Option.map_eq_bind]
  congr 1
  funext distance
  have anySame : (headerValues header "v1").any (fun s => constantTimeStrEq (signStripe hmac secret t body) s) =
      decide (signStripe hmac secret t body ∈ headerValues header "v1") := by
    rw [Bool.eq_iff_iff, List.any_eq_true, decide_eq_true_iff]
    constructor
    · rintro ⟨v1, there, equal⟩
      rwa [constantTimeStrEq_iff.mp equal]
    · intro there
      exact ⟨_, there, constantTimeStrEq_iff.mpr rfl⟩
  by_cases stale : tolerance < distance
  · have far : ¬ distance ≤ tolerance := fun near => Int64.not_le.mpr stale near
    simp [stale, far]
  · have near : distance ≤ tolerance := Int64.not_lt.mp stale
    rw [if_neg stale, Function.comp_apply, decide_eq_true near, Bool.true_and, ← anySame]
    split
    · rename_i noSignature
      rw [noSignature]
      rfl
    · rfl

theorem verifyStripeSignature_of_near (known : secret ≠ "") (timed : headerTimestamp header = some t)
    (near : (now.toInt - t.toInt).natAbs < 2 ^ 63) :
    verifyStripeSignature hmac checks secret body header now tolerance =
      some (decide ((now.toInt - t.toInt).natAbs ≤ tolerance.toInt) &&
        decide (signStripe hmac secret t body ∈ headerValues header "v1")) := by
  obtain ⟨fits, absFits⟩ := natAbs_lt_iff_fits.mp near
  rw [verifyStripeSignature_of_timed known timed, machineInt64_of_fits fits, Option.bind_some, toInt_of_fits fits,
    machineInt64_of_fits absFits, Option.map_some]
  congr 2
  rw [decide_eq_decide, Int64.le_iff_toInt_le, toInt_of_fits absFits]

variable (hmac body tolerance) in
theorem verifyStripeSignature_of_far (known : secret ≠ "") (timed : headerTimestamp header = some t)
    (far : ¬ (now.toInt - t.toInt).natAbs < 2 ^ 63) :
    verifyStripeSignature hmac true secret body header now tolerance = none := by
  rw [verifyStripeSignature_of_timed known timed]
  by_cases fits : FitsInt64 (now.toInt - t.toInt)
  · have absPast : ¬ FitsInt64 (now.toInt - t.toInt).natAbs :=
      fun absFits => far (natAbs_lt_iff_fits.mpr ⟨fits, absFits⟩)
    rw [machineInt64_of_fits fits, Option.bind_some, toInt_of_fits fits, machineInt64_of_checks absPast,
      Option.map_none]
  · rw [machineInt64_of_checks fits, Option.bind_none]

/-- The check is exact over the integers just when the header's time, if it has one, is less than
2^63 seconds from now; and with no secret, when nothing is signed with the empty one. -/
theorem stripe_signature_checked_iff :
    ChecksSignature hmac secret body header now tolerance ↔
      if secret = "" then ¬ GenuineSignature hmac secret body header now tolerance
      else ∀ t, headerTimestamp header = some t → (now.toInt - t.toInt).natAbs < 2 ^ 63 := by
  split
  next unknown =>
    have refused : ∀ checks, verifyStripeSignature hmac checks secret body header now tolerance = some false :=
      fun checks => if_pos unknown
    constructor
    · rintro ⟨accepts, answers, exact_⟩ genuine
      obtain rfl := Option.some.inj ((answers true).symm.trans (refused true))
      cases exact_.mpr genuine
    · intro unsigned
      exact ⟨false, refused, fun accepted => (by cases accepted), fun genuine => absurd genuine unsigned⟩
  next known =>
    constructor
    · rintro ⟨accepts, answers, -⟩ t timed
      by_contra far
      have panics := verifyStripeSignature_of_far hmac body tolerance known timed far
      rw [answers] at panics
      cases panics
    · intro near
      cases timed : headerTimestamp header with
      | none =>
        refine ⟨false, fun checks => verifyStripeSignature_of_untimed known timed, ?_⟩
        constructor
        · intro accepted
          cases accepted
        · rintro ⟨t, same, -⟩
          rw [timed] at same
          cases same
      | some t =>
        refine ⟨_, fun checks => verifyStripeSignature_of_near known timed (near t timed), ?_⟩
        rw [Bool.and_eq_true, decide_eq_true_iff, decide_eq_true_iff]
        constructor
        · rintro ⟨fresh, signed⟩
          exact ⟨t, timed, ⟨_, signed, rfl⟩, fresh⟩
        · rintro ⟨same, timed', ⟨v1, signed, rfl⟩, fresh⟩
          rw [timed] at timed'
          cases timed'
          exact ⟨fresh, signed⟩

end

/-- A time in the distant past makes a build with overflow checks panic. -/
theorem stripe_signature_panics :
    ¬ ∀ (hmac : List UInt8 → List UInt8 → List UInt8) (secret header : String) (body : List UInt8)
        (now tolerance : Int64),
      secret ≠ "" → ChecksSignature hmac secret body header now tolerance := by
  intro checked
  obtain ⟨accepts, answers, -⟩ :=
    checked (fun _ _ => []) "whsec_test" "t=-9223372036854775808,v1=00" [] 1700000000 300
    (by decide)
  have timed : headerTimestamp "t=-9223372036854775808,v1=00" = some Int64.minValue := by decide +kernel
  have panics := verifyStripeSignature_of_far (fun _ _ => []) [] 300 (show "whsec_test" ≠ "" by decide) timed
    (show ¬ ((1700000000 : Int64).toInt - Int64.minValue.toInt).natAbs < 2 ^ 63 by decide)
  rw [answers] at panics
  cases panics

/-- What HMAC-SHA256 gives for `1000000.{}` under `whsec_test`. -/
def testTag : List UInt8 :=
  [0x2e, 0xa2, 0x79, 0x21, 0xbd, 0xf3, 0x60, 0x4f, 0x44, 0xd3, 0xcb, 0xad, 0xe3, 0xf7, 0xe1, 0x8a,
    0x12, 0x7e, 0x7e, 0xe4, 0x0d, 0x8e, 0xd5, 0xf8, 0xd3, 0xb9, 0xc1, 0x8a, 0xe5, 0x97, 0xf1, 0xd5]

/-- A header signed ten seconds ago. -/
theorem stripe_signature_checked_fresh :
    ChecksSignature (fun _ _ => testTag) "whsec_test" [0x7b, 0x7d]
      "t=1000000,v1=2ea27921bdf3604f44d3cbade3f7e18a127e7ee40d8ed5f8d3b9c18ae597f1d5" 1000010 300 := by
  refine stripe_signature_checked_iff.mpr ?_
  rw [if_neg (by decide)]
  intro t timed
  have read : headerTimestamp "t=1000000,v1=2ea27921bdf3604f44d3cbade3f7e18a127e7ee40d8ed5f8d3b9c18ae597f1d5" =
      some 1000000 := by decide +kernel
  rw [read] at timed
  cases timed
  decide

end CoopSpaces
