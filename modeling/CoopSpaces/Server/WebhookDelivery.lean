import CoopSpaces.Lib.Machine

namespace CoopSpaces

inductive IpAddr where
  | v4 (bits : BitVec 32)
  | v6 (bits : BitVec 128)
  deriving DecidableEq

namespace IpAddr

def ofOctets (a b c d : BitVec 8) : IpAddr := .v4 (a ++ b ++ c ++ d)

/-- 169.254.0.0/16. -/
def isLinkLocal (bits : BitVec 32) : Bool := bits.extractLsb' 16 16 = 0xa9fe#16

/-- The IPv4 address that `::ffff:a.b.c.d` stands for. -/
def toIpv4Mapped (bits : BitVec 128) : Option (BitVec 32) :=
  if bits.extractLsb' 32 96 = 0xffff#96 then some (bits.extractLsb' 0 32) else none

/-- The metadata service at fd00:ec2::254. -/
def AWS_IMDS_V6 : BitVec 128 := 0xfd000ec2000000000000000000000254#128

/-- An address a webhook must never reach: link-local, or a cloud's metadata service. -/
def isForbidden : IpAddr → Bool
  | .v4 bits => isLinkLocal bits
  | .v6 bits =>
    match toIpv4Mapped bits with
    | some low => isLinkLocal low
    | none => bits.extractLsb' 112 16 &&& 0xffc0#16 = 0xfe80#16 || bits = AWS_IMDS_V6

end IpAddr

/-- What a parsed URL names as its host. -/
inductive UrlHost where
  | domain (name : String)
  | ip (addr : IpAddr)
  deriving DecidableEq

/-- What a webhook's URL parses to; the port is the one it names, or its scheme's. -/
structure WebhookUrl where
  host : Option UrlHost
  port : Option (BitVec 16)
  deriving DecidableEq

inductive ScreenError where
  | noHost
  | noPort
  | unresolved
  | noAddresses
  | blocked (bad : IpAddr)
  deriving DecidableEq

/-- What the resolver tells of a host, whose answer about a name is given. The brackets around an
IPv6 literal make it a name that nothing answers to. -/
def lookupHost (answer : Option (List IpAddr)) : UrlHost → Option (List IpAddr)
  | .domain _ => answer
  | .ip (.v4 bits) => some [.v4 bits]
  | .ip (.v6 _) => none

/-- Resolve the webhook's host and confirm that every address it maps to is permitted. -/
def resolveAndScreen (url : WebhookUrl) (answer : Option (List IpAddr)) :
    Except ScreenError (UrlHost × List IpAddr) :=
  match url.host with
  | none => .error .noHost
  | some host =>
    match url.port with
    | none => .error .noPort
    | some _ =>
      match lookupHost answer host with
      | none => .error .unresolved
      | some addrs =>
        if addrs.isEmpty then .error .noAddresses
        else
          match addrs.find? (·.isForbidden) with
          | some bad => .error (.blocked bad)
          | none => .ok (host, addrs)

/-- A client: the host whose addresses it has been told, if it is not the shared one. -/
structure HttpClient where
  resolveToAddrs : Option (UrlHost × List IpAddr)
  deriving DecidableEq

/-- The addresses a client connects to. It takes a literal for what it is, a name it has been told
as it was told, and asks for any other name. -/
def HttpClient.addresses (client : HttpClient) (host : UrlHost) (answer : Option (List IpAddr)) : List IpAddr :=
  match host with
  | .ip addr => [addr]
  | .domain name =>
    match client.resolveToAddrs with
    | some (told, addrs) => if told = .domain name then addrs else answer.getD []
    | none => answer.getD []

/-- What comes back for a request. A redirect may name a host or nothing that can be followed. -/
inductive HttpReply where
  | redirect (location : Option UrlHost)
  | status (success : Bool)
  | failed
  deriving DecidableEq

/-- One turn of the network: an answer about a name, whether a pinned client builds, which of the
addresses takes the connection, what comes back, and whether the webhook is still there when an
attempt is recorded. -/
structure NetTurn where
  answer : Option (List IpAddr)
  builds : Bool
  connected : Nat
  reply : HttpReply
  stillExists : Bool
  deriving DecidableEq

def MAX_ATTEMPTS : Nat := 3

inductive WebhookDelivery where
  | screening (url : WebhookUrl)
  | sending (client : HttpClient) (own target : UrlHost) (attempt redirects : Nat)
  | ended
  deriving DecidableEq

namespace WebhookDelivery

/-- The next attempt after one that failed and is recorded. -/
def retry (client : HttpClient) (own : UrlHost) (attempt : Nat) (turn : NetTurn) : WebhookDelivery :=
  if !turn.stillExists then .ended
  else if attempt < MAX_ATTEMPTS then .sending client own own (attempt + 1) 0
  else .ended

/-- Deliver a payload: screen, pin, then send up to three times, each time following as many redirects as the client
does. The answer is the address a request went to. -/
def step (maxRedirects : Nat) (delivery : WebhookDelivery) (turn : NetTurn) : WebhookDelivery × Option IpAddr :=
  match delivery with
  | .screening url =>
    match resolveAndScreen url turn.answer with
    | .error _ => (.ended, none)
    | .ok (host, resolved) =>
      -- A pinned client that does not build is replaced with the shared one.
      (.sending ⟨if turn.builds then some (host, resolved) else none⟩ host host 1 0, none)
  | .sending client own target attempt redirects =>
    match (client.addresses target turn.answer)[turn.connected]? with
    | none => (retry client own attempt turn, none)
    | some reached =>
      let next :=
        match turn.reply with
        | .redirect (some location) =>
          if redirects < maxRedirects then .sending client own location attempt (redirects + 1)
            else retry client own attempt turn
        | .redirect none => retry client own attempt turn
        | .status true => .ended
        | .status false => retry client own attempt turn
        | .failed => retry client own attempt turn
      (next, some reached)
  | .ended => (.ended, none)

def machine (maxRedirects : Nat) (url : WebhookUrl) : Machine WebhookDelivery NetTurn (Option IpAddr) :=
  ⟨.screening url, step maxRedirects⟩

/-- No request of a turn goes to a forbidden address. -/
def Spares (maxRedirects : Nat) (delivery : WebhookDelivery) (turn : NetTurn) : Prop :=
  ∀ reached ∈ (step maxRedirects delivery turn).2, reached.isForbidden = false

/-- In the first turn, that of the screening, no pinned client built. -/
def unpinned (past : List NetTurn) : Bool := past.head?.any (!·.builds)

/-- What the screening does not answer for: another host than the webhook's, where a redirect leads,
or the webhook's own name where no pinned client built. -/
def Unscreened (past : List NetTurn) (own target : UrlHost) : Prop :=
  target ≠ own ∨ unpinned past = true ∧ ∃ name, own = .domain name

/-- The address that takes the connection for such a host: the literal itself, or one that the
resolver answers with now. -/
def strays (target : UrlHost) (turn : NetTurn) : Option IpAddr :=
  match target with
  | .ip addr => [addr][turn.connected]?
  | .domain _ => (turn.answer.getD [])[turn.connected]?

/-- Where the screening does not answer for the host, its address is permitted all the same. -/
def Permits (past : List NetTurn) (delivery : WebhookDelivery) (turn : NetTurn) : Prop :=
  match delivery with
  | .sending _ own target _ _ =>
    Unscreened past own target → ∀ reached ∈ strays target turn, reached.isForbidden = false
  | _ => True

/-- Unless none built, the client has been told addresses of the webhook's own host, all of them permitted; and the
host is permitted if it is a literal. -/
def Screened (past : List NetTurn) : WebhookDelivery → Prop
  | .screening _ => past = []
  | .sending client own _ _ _ =>
    past ≠ [] ∧ (client.resolveToAddrs = none ↔ unpinned past = true) ∧
      (∀ told, client.resolveToAddrs = some told → told.1 = own ∧ ∀ addr ∈ told.2, addr.isForbidden = false) ∧
      ∀ addr, own = .ip addr → addr.isForbidden = false
  | .ended => True

section Steps
variable {maxRedirects : Nat} {client : HttpClient} {own target other : UrlHost} {attempt redirects : Nat}
  {past : List NetTurn} {turn : NetTurn} {delivery : WebhookDelivery}

theorem unpinned_append (begun : past ≠ []) : unpinned (past ++ [turn]) = unpinned past := by
  obtain ⟨first, rest, rfl⟩ := List.exists_cons_of_ne_nil begun
  rfl

theorem Screened.on (screened : Screened past (.sending client own target attempt redirects))
    (attempt' redirects' : Nat) :
    Screened (past ++ [turn]) (.sending client own other attempt' redirects') := by
  obtain ⟨begun, pinned, told, literal⟩ := screened
  refine ⟨by simp, ?_, told, literal⟩
  rw [unpinned_append begun]
  exact pinned

/-- What passes the screening is a host whose addresses are all permitted, and a literal is its own address. -/
theorem resolveAndScreen_ok {url : WebhookUrl} {answer : Option (List IpAddr)} {host : UrlHost}
    {resolved : List IpAddr}
    (passes : resolveAndScreen url answer = .ok (host, resolved)) :
    (∀ addr ∈ resolved, addr.isForbidden = false) ∧ ∀ addr, host = .ip addr → addr.isForbidden = false := by
  unfold resolveAndScreen at passes
  split at passes
  · cases passes
  split at passes
  · cases passes
  split at passes
  · cases passes
  rename_i named _ _ _ addrs found
  split at passes
  · cases passes
  split at passes
  · cases passes
  rename_i clean
  cases passes
  have permitted : ∀ addr ∈ resolved, addr.isForbidden = false := by
    intro addr member
    exact Bool.eq_false_iff.mpr (List.find?_eq_none.mp clean addr member)
  refine ⟨permitted, ?_⟩
  rintro addr rfl
  cases addr with
  | v4 bits =>
    obtain rfl := Option.some.inj found
    exact permitted _ (List.mem_singleton_self _)
  | v6 bits => cases found

theorem retry_screened (screened : Screened past (.sending client own target attempt redirects)) :
    Screened (past ++ [turn]) (retry client own attempt turn) := by
  unfold retry
  split
  · trivial
  · split
    · exact screened.on _ _
    · trivial

theorem step_screened (screened : Screened past delivery) :
    Screened (past ++ [turn]) (step maxRedirects delivery turn).1 := by
  cases delivery with
  | screening url =>
    obtain rfl : past = [] := screened
    simp only [step]
    split
    · trivial
    · rename_i host resolved passes
      obtain ⟨permitted, literal⟩ := resolveAndScreen_ok passes
      refine ⟨by simp, ?_, ?_, literal⟩
      · cases built : turn.builds <;> simp [unpinned, built]
      · intro told same
        dsimp only at same
        split at same
        · obtain rfl := Option.some.inj same
          exact ⟨rfl, permitted⟩
        · cases same
  | sending client own target attempt redirects =>
    have again := @retry_screened _ _ _ _ _ _ turn screened
    simp only [step]
    split
    · exact again
    · split
      · split
        · exact screened.on _ _
        · exact again
      · exact again
      · trivial
      · exact again
      · exact again
  | ended => trivial

theorem step_sending :
    (step maxRedirects (.sending client own target attempt redirects) turn).2 =
      (client.addresses target turn.answer)[turn.connected]? := by
  simp only [step]
  split
  · rename_i nothing
    exact nothing.symm
  · rename_i reached
    exact reached.symm

/-- Where the screening does not answer for the host, the client goes where the network says. -/
theorem addresses_of_unscreened (screened : Screened past (.sending client own target attempt redirects))
    (unscreened : Unscreened past own target) :
    (client.addresses target turn.answer)[turn.connected]? = strays target turn := by
  cases target with
  | ip addr => rfl
  | domain name =>
    unfold HttpClient.addresses strays
    cases pinned : client.resolveToAddrs with
    | none => rfl
    | some told =>
      have elsewhere : told.1 ≠ .domain name := by
        intro same
        rcases unscreened with apart | ⟨shared, -⟩
        · exact apart (same.symm.trans (screened.2.2.1 told pinned).1)
        · have none_ := screened.2.1.mpr shared
          rw [pinned] at none_
          cases none_
      simp only [if_neg elsewhere]

theorem addresses_of_screened (screened : Screened past (.sending client own target attempt redirects))
    (covered : ¬ Unscreened past own target) :
    ∀ addr ∈ client.addresses target turn.answer, addr.isForbidden = false := by
  rw [Unscreened, not_or, not_not, not_and] at covered
  obtain ⟨rfl, pinned⟩ := covered
  intro addr member
  cases target with
  | ip literal =>
    obtain rfl := List.mem_singleton.mp member
    exact screened.2.2.2 addr rfl
  | domain name =>
    cases told : client.resolveToAddrs with
    | none => exact absurd ⟨name, rfl⟩ (pinned (screened.2.1.mp told))
    | some told' =>
      obtain ⟨same, permitted⟩ := screened.2.2.1 told' told
      simp only [HttpClient.addresses, told, if_pos same] at member
      exact permitted addr member

theorem spares_iff_permits (screened : Screened past delivery) :
    Spares maxRedirects delivery turn ↔ Permits past delivery turn := by
  cases delivery with
  | screening url =>
    refine iff_of_true ?_ trivial
    unfold Spares
    simp only [step]
    split
    · exact nofun
    · exact nofun
  | ended => exact iff_of_true nofun trivial
  | sending client own target attempt redirects =>
    rw [Spares, step_sending, Permits]
    by_cases unscreened : Unscreened past own target
    · rw [addresses_of_unscreened screened unscreened]
      exact ⟨fun spares _ => spares, fun permits => permits unscreened⟩
    · refine iff_of_true ?_ (fun covered => absurd covered unscreened)
      intro reached found
      exact addresses_of_screened screened unscreened reached (List.mem_of_getElem? found)

end Steps

/-- Whatever the network answers, no request of a delivery goes to a forbidden address exactly when
each that the screening does not answer for is led to a permitted one. -/
theorem delivery_spares_iff (maxRedirects : Nat) (url : WebhookUrl) (turns : List NetTurn) :
    EveryStep (fun past turn => Spares maxRedirects ((machine maxRedirects url).run past) turn) turns ↔
      EveryStep (fun past turn => Permits past ((machine maxRedirects url).run past) turn) turns := by
  refine EveryStep.congr fun past turn => spares_iff_permits ?_
  exact (machine maxRedirects url).run_invariant Screened rfl (fun _ _ screened => step_screened screened) past

section
def hookUrl : WebhookUrl := ⟨some (.domain "hooks.example"), some 443⟩

/-- The name is on the LAN, which is permitted. -/
def lanAnswer : Option (List IpAddr) := some [.ofOctets 10 0 0 9]

def metadata : IpAddr := .ofOctets 169 254 169 254

/-- The webhook's own host redirects to the metadata service. -/
def redirected : List NetTurn :=
  [⟨lanAnswer, true, 0, .failed, true⟩, ⟨none, true, 0, .redirect (some (.ip metadata)), true⟩,
    ⟨none, true, 0, .status true, true⟩]

/-- The pinned client follows the redirect to an address that the screening refuses. -/
theorem redirect_reaches_metadata :
    step 10 ((machine 10 hookUrl).run (redirected.take 2)) ⟨none, true, 0, .status true, true⟩ =
      (.ended, some metadata) ∧ metadata.isForbidden = true ∧
        ¬ EveryStep (fun past turn => Spares 10 ((machine 10 hookUrl).run past) turn) redirected := by
  refine ⟨by decide +kernel, by decide +kernel, ?_⟩
  intro every
  have third := every (redirected.take 2) ⟨none, true, 0, .status true, true⟩ [] rfl metadata (by decide +kernel)
  revert third
  decide +kernel

end

end WebhookDelivery

end CoopSpaces
