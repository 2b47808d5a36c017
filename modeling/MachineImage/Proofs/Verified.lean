import MachineImage.Proofs.Received
import MachineImage.Proofs.Scheme
import MachineImage.Proofs.Sequence

/-!
What is signed is what is sent: a receiver who knows the credentials makes the same signature from
the request as it arrives.
-/
namespace MachineImage

open Text

/-- The service and the region of a host. -/
def Service.ofEndpoint? (host : Text) : Option (Service × Region) :=
  if host = "s3.amazonaws.com".toList then some (.storage, ⟨"us-east-1".toList⟩)
  else do
    let (name, rest) ← cut (· == '.') host
    let service ← [Service.storage, .compute, .notification].find? (·.name = name)
    let suffix := ".amazonaws.com".toList
    if suffix.isSuffixOf rest then some (service, ⟨rest.take (rest.length - suffix.length)⟩)
    else none

theorem Service.ofEndpoint?_endpoint (s : Service) (r : Region) :
    ofEndpoint? (s.endpoint r) = some (s, r) := by
  unfold endpoint
  split
  · next h =>
    obtain ⟨rfl, hr⟩ := h
    rw [ofEndpoint?, if_pos rfl, ← hr]
  · -- A host with a name and a dot before the domain is longer than the one without a region.
    have hlen : ∀ name : Text, 2 ≤ name.length →
        name ++ '.' :: r.name ++ ".amazonaws.com".toList ≠ "s3.amazonaws.com".toList := by
      intro name hn he
      have hl := congrArg List.length he
      simp only [List.length_append, List.length_cons] at hl
      have h₁ : ".amazonaws.com".toList.length = 14 := rfl
      have h₂ : "s3.amazonaws.com".toList.length = 16 := rfl
      omega
    have hname : 2 ≤ s.name.length := by cases s <;> decide
    have hdot : '.' ∉ s.name := by cases s <;> decide
    have hfind : [Service.storage, .compute, .notification].find? (·.name = s.name) = some s := by
      cases s <;> decide +kernel
    have hsuffix : ".amazonaws.com".toList.isSuffixOf (r.name ++ ".amazonaws.com".toList) = true :=
      List.isSuffixOf_iff_suffix.2 (List.suffix_append _ _)
    rw [ofEndpoint?, if_neg (hlen _ hname), List.append_assoc, List.cons_append,
      cut_sign hdot]
    simp only [Option.bind_eq_bind, Option.bind_some, hfind, if_pos hsuffix, List.length_append,
      Nat.add_sub_cancel, List.take_left']

namespace Wire

/-- The authorization that the receiver of a request expects in it, from what was received alone. -/
def Received.authorization? (r : Received) (credentials : Credentials) (service : Service)
    (region : Region) : Option Text := do
  let host ← r.header? "host".toList
  let payloadHash ← r.header? "x-amz-content-sha256".toList
  let timestamp ← r.header? "x-amz-date".toList
  let scope : Scheme.Scope := ⟨timestamp.takeWhile (· ≠ 'T'), region.name, service.name⟩
  return Scheme.authorization credentials scope timestamp r.method r.target host payloadHash

theorem isSpace_of_isVisible {c : Char} (h : isVisible c = true) : isSpace c = false := by
  rw [isSpace, Bool.or_eq_false_iff, beq_eq_false_iff_ne, beq_eq_false_iff_ne]
  constructor
  · rintro rfl
    exact absurd h (by decide)
  · rintro rfl
    exact absurd h (by decide)

theorem strip_visible {s : Text} (h : Visible s) : Text.strip isSpace s = s :=
  strip_of_ends (fun c hc => isSpace_of_isVisible (h c (List.mem_of_mem_head? hc)))
    fun c hc => isSpace_of_isVisible (h c (List.mem_of_getLast? hc))

/-- The space around a value does not count where only its words do. -/
theorem unwords_strip (s : Text) : unwords (Text.strip isSpace s) = unwords s := by
  have htrim : trim (Text.strip isSpace s) = trim s := by
    rw [trim_eq_strip, trim_eq_strip]
    apply strip_strip
    intro c hc
    simp only [isSpace, Bool.or_eq_true, beq_iff_eq] at hc
    rcases hc with rfl | rfl
    · rfl
    · rfl
  rw [← collapse_trim, htrim, collapse_trim]

/-- The headers of a signed request, those behind the common ones last. -/
def requestHeaders (host : Text) (s : Signing.Signature) (body : Octets)
    (more : List Signing.Header) : List Signing.Header :=
  ("Host".toList, host) :: ("X-Amz-Date".toList, s.timestamp) ::
    ("X-Amz-Content-SHA256".toList, s.payloadHash) :: ("Authorization".toList, s.authorization) ::
    ("Content-Length".toList, Decimal.digits body.length) :: more

theorem putRequest_eq (host path : Text) (s : Signing.Signature) (body : Octets) :
    putRequest host path s body =
      Utf8.encode (headText (("PUT".toList ++ ' ' :: Percent.encodePath path ++
        ' ' :: "HTTP/1.1".toList) :: (requestHeaders host s body
          [("Connection".toList, "close".toList)]).map headerText)) ++ body := by
  have hput : "PUT ".toList = "PUT".toList ++ [' '] := rfl
  have hversion : " HTTP/1.1".toList = ' ' :: "HTTP/1.1".toList := rfl
  rw [putRequest, hput, hversion]
  simp [headText, requestHeaders, headerText, headerLine, signedLines]

theorem apiRequest_eq (host : Text) (s : Signing.Signature) (form : Text) :
    apiRequest host s form =
      Utf8.encode (headText (("POST".toList ++ ' ' :: Percent.encodePath ['/'] ++
        ' ' :: "HTTP/1.0".toList) :: (requestHeaders host s (Utf8.encode form)
          [("Content-Type".toList, "application/x-www-form-urlencoded".toList),
            ("Connection".toList, "close".toList)]).map headerText)) ++ Utf8.encode form := by
  have hpost : "POST / HTTP/1.0".toList =
      "POST".toList ++ ' ' :: Percent.encodePath ['/'] ++ ' ' :: "HTTP/1.0".toList := by
    decide +kernel
  rw [apiRequest, hpost]
  simp [headText, requestHeaders, headerText, headerLine, signedLines]

end Wire

namespace Signing

theorem Context.visible_sign (c : Context) (request : Text) : Visible (c.sign request) :=
  visible_hex _

/-- No space stands at the ends of an authorization. -/
theorem strip_authorization (keyId scope signed : Text) {signature : Text}
    (h : Visible signature) : Text.strip Wire.isSpace (authorization keyId scope signed signature) =
      authorization keyId scope signed signature := by
  have hlast : Visible (",Signature=".toList ++ signature) := Visible.append (by decide) h
  apply strip_of_ends
  · intro c hc
    have hhead : (authorization keyId scope signed signature).head? = some 'A' := rfl
    rw [hhead] at hc
    cases hc
    rfl
  · intro c hc
    have hne : ",Signature=".toList ++ signature ≠ [] := by simp
    rw [authorization, List.append_assoc _ ",Signature=".toList, List.getLast?_append,
      List.getLast?_eq_some_getLast hne, Option.some_or] at hc
    rw [← Option.some.inj hc]
    exact Wire.isSpace_of_isVisible (hlast _ (List.getLast_mem hne))

end Signing

/-- No value of a signature ends its line. -/
structure Signing.Signature.OnLine (s : Signing.Signature) : Prop where
  payloadHash : Text.OnLine s.payloadHash
  timestamp : Text.OnLine s.timestamp
  authorization : Text.OnLine s.authorization

namespace Wire

variable {host : Text} {s : Signing.Signature} {body : Octets} {more : List Signing.Header}

/-- What a receiver finds under the names that it looks for. -/
theorem header?_requestHeaders {r : Received}
    (hr : r.headers =
      (requestHeaders host s body more).map fun h => (h.1, Text.strip isSpace h.2)) :
    r.header? "host".toList = some (Text.strip isSpace host) ∧
      r.header? "x-amz-date".toList = some (Text.strip isSpace s.timestamp) ∧
      r.header? "x-amz-content-sha256".toList = some (Text.strip isSpace s.payloadHash) ∧
      r.header? "authorization".toList = some (Text.strip isSpace s.authorization) := by
  simp only [Received.header?, hr]
  exact ⟨rfl, rfl, rfl, rfl⟩

/-- The request was signed as it is received. -/
structure Received.Verifies (r : Received) (credentials : Credentials) (service : Service)
    (region : Region) (body : Octets) : Prop where
  body : r.body = body
  payloadHash : r.header? "x-amz-content-sha256".toList = some (Sha256.hexDigest r.body)
  noQuery : '?' ∉ r.target
  authorization : ∃ authorization, r.header? "authorization".toList = some authorization ∧
    r.authorization? credentials service region = some authorization

theorem visible_hexDigest (b : Octets) : Visible (Sha256.hexDigest b) := visible_hex _

/-- A request with no more to sign than all have. -/
def unsigned (method host path : Text) (body : Octets) : Signing.UnsignedRequest :=
  { method, host, path, payloadHash := Sha256.hexDigest body }

variable (ctx : Signing.Context) {method path : Text}

/-- What was signed before it was sent is found to be signed as it is received. -/
theorem verifies_received (hs : s = Signing.signRequest ctx (unsigned method host path body)) :
    Received.Verifies ⟨method, Percent.encodePath path,
      (requestHeaders host s body more).map fun h => (h.1, Text.strip isSpace h.2), body⟩
      ctx.credentials ctx.service ctx.region body := by
  obtain ⟨hhost, hdate, hhash, hauth⟩ := header?_requestHeaders (r := ⟨method,
    Percent.encodePath path, (requestHeaders host s body more).map fun h =>
      (h.1, Text.strip isSpace h.2), body⟩) rfl
  have htime : s.timestamp = ctx.time.timestamp := by rw [hs]; rfl
  have hpay : s.payloadHash = Sha256.hexDigest body := by rw [hs]; rfl
  have hstrip : Text.strip isSpace s.authorization = s.authorization := by
    rw [hs]
    exact Signing.strip_authorization _ _ _ (ctx.visible_sign _)
  rw [htime, strip_visible (Instant.visible_timestamp _)] at hdate
  rw [hpay, strip_visible (visible_hexDigest _)] at hhash
  rw [hstrip] at hauth
  refine ⟨rfl, hhash, not_mem_encodePath path, _, hauth, ?_⟩
  simp only [Received.authorization?, hhost, hhash, hdate, Option.bind_eq_bind, Option.bind_some,
    Instant.takeWhile_timestamp]
  -- The space that was lost around the host does not count.
  rw [Scheme.authorization_congr (unwords_strip host), hs, unsigned,
    Signing.authorization_signRequest]
  rfl

theorem onLine_authorization (hkey : OnLine ctx.credentials.keyId)
    (hregion : OnLine ctx.region.name)
    (r : Signing.UnsignedRequest) (hr : r.headers = []) :
    OnLine (Signing.signRequest ctx r).authorization := by
  have hservice : OnLine ctx.service.name := by cases ctx.service <;> decide
  have hscope : OnLine ctx.scope :=
    ((ctx.time.visible_dateStamp.onLine.append (hregion.cons (by decide))).append
      (hservice.cons (by decide))).append (by decide)
  have hsigned : OnLine (Signing.signedHeaders ctx r).signed := by
    rw [Signing.signedHeaders_eq ctx hr, Signing.signed_of_ascending
      (Signing.lower_signedHeaders _ _ _) (Signing.ascending_signedHeaders _ _ _)]
    change OnLine ([';'].intercalate
      ["host".toList, "x-amz-content-sha256".toList, "x-amz-date".toList])
    decide +kernel
  have hsignature := (ctx.visible_sign (Signing.canonicalRequest r.method r.path r.query
    (Signing.signedHeaders ctx r) r.payloadHash)).onLine
  have hkeyId : OnLine (Signing.algorithm ++ " Credential=".toList ++ ctx.credentials.keyId) :=
    OnLine.append (by decide) hkey
  exact ((((hkeyId.append (hscope.cons (by decide))).append (by decide)).append hsigned).append
    (by decide)).append hsignature

/-- Nor does any other value of the signature end its line. -/
theorem onLine_signRequest (hkey : OnLine ctx.credentials.keyId)
    (hregion : OnLine ctx.region.name) :
    (Signing.signRequest ctx (unsigned method host path body)).OnLine :=
  ⟨(visible_hexDigest body).onLine, ctx.time.visible_timestamp.onLine,
    onLine_authorization ctx hkey hregion _ rfl⟩

/-- All the headers of a request are lines of their own. -/
theorem onLine_requestHeaders (hhost : OnLine host) (hs : s.OnLine)
    (hmore : ∀ h ∈ more, OnLine h.2) : ∀ h ∈ requestHeaders host s body more, OnLine h.2 :=
  List.forall_mem_cons.2 ⟨hhost, List.forall_mem_cons.2 ⟨hs.timestamp,
    List.forall_mem_cons.2 ⟨hs.payloadHash, List.forall_mem_cons.2 ⟨hs.authorization,
      List.forall_mem_cons.2 ⟨(visible_digits _).onLine, hmore⟩⟩⟩⟩⟩

theorem names_requestHeaders (hmore : ∀ h ∈ more, Visible h.1 ∧ ':' ∉ h.1) :
    ∀ h ∈ requestHeaders host s body more, Visible h.1 ∧ ':' ∉ h.1 := by
  have hcommon : ∀ name ∈ ["Host".toList, "X-Amz-Date".toList, "X-Amz-Content-SHA256".toList,
      "Authorization".toList, "Content-Length".toList], Visible name ∧ ':' ∉ name := by
    decide +kernel
  simp only [List.forall_mem_cons] at hcommon
  obtain ⟨h₁, h₂, h₃, h₄, h₅, -⟩ := hcommon
  exact List.forall_mem_cons.2 ⟨h₁, List.forall_mem_cons.2 ⟨h₂, List.forall_mem_cons.2 ⟨h₃,
    List.forall_mem_cons.2 ⟨h₄, List.forall_mem_cons.2 ⟨h₅, hmore⟩⟩⟩⟩⟩

/-- A request that is signed and written like this is received as it was signed. -/
theorem received_signed {version : Text} (hkey : OnLine ctx.credentials.keyId)
    (hregion : OnLine ctx.region.name) (hhost : OnLine host) (hmethod : Visible method)
    (hversion : Visible version) (hmore : ∀ h ∈ more, (Visible h.1 ∧ ':' ∉ h.1) ∧ OnLine h.2)
    (hs : s = Signing.signRequest ctx (unsigned method host path body)) :
    ∃ r, receive? (Utf8.encode (headText ((method ++ ' ' :: Percent.encodePath path ++
      ' ' :: version) :: (requestHeaders host s body more).map headerText)) ++ body) = some r ∧
      r.Verifies ctx.credentials ctx.service ctx.region body := by
  have hnames : ∀ h ∈ requestHeaders host s body more, Visible h.1 ∧ ':' ∉ h.1 :=
    names_requestHeaders fun h hm => (hmore h hm).1
  have hlines : ∀ h ∈ requestHeaders host s body more, OnLine h.2 :=
    onLine_requestHeaders hhost (hs ▸ onLine_signRequest ctx hkey hregion)
      fun h hm => (hmore h hm).2
  exact ⟨_, receive?_headText hmethod (visible_encodePath path) hversion hnames hlines body,
    verifies_received ctx hs⟩

end Wire

open Wire

namespace Order

def service : Order → Service
  | .put .. => .storage
  | .call service .. => service

def body : Order → Octets
  | .put _ _ _ body => body
  | .call _ _ form => Utf8.encode form.encode

/-- The names in an order stay on their line. -/
def OnLine : Order → Prop
  | .put region bucket _ _ => Text.OnLine region.name ∧ Text.OnLine bucket
  | .call _ region _ => Text.OnLine region.name

end Order

/-- Whoever receives the request finds that it was signed as it is, for the service and the region
of the host to which it goes. -/
structure Request.Verified (q : Request) (credentials : Credentials) : Prop where
  received : ∃ r, receive? q.octets = some r ∧
    r.Verifies credentials q.order.service q.order.region q.order.body
  endpoint : Service.ofEndpoint? q.host = some (q.order.service, q.order.region)

theorem Service.onLine_endpoint (s : Service) {r : Region} (h : OnLine r.name) :
    OnLine (s.endpoint r) := by
  have hname : OnLine s.name := by cases s <;> decide
  unfold endpoint
  split
  · decide
  · exact (hname.append (h.cons (by decide))).append (by decide)

namespace Client

variable (c : Client)

theorem verified_request (order : Order) (time : Instant) (hkey : OnLine c.credentials.keyId)
    (ho : order.OnLine) : (c.request order time).Verified c.credentials := by
  cases order with
  | put region bucket path body =>
    obtain ⟨hregion, hbucket⟩ := ho
    have hhost : OnLine (bucketHost bucket) := hbucket.append (by decide)
    refine ⟨?_, Service.ofEndpoint?_endpoint .storage region⟩
    rw [Client.request, putRequest_eq]
    exact received_signed ⟨c.credentials, region, .storage, time⟩ hkey hregion hhost (by decide)
      (by decide) (by decide +kernel) rfl
  | call service region form =>
    have hhost := service.onLine_endpoint ho
    refine ⟨?_, Service.ofEndpoint?_endpoint service region⟩
    rw [Client.request, apiRequest_eq]
    exact received_signed ⟨c.credentials, region, service, time⟩ hkey ho hhost (by decide)
      (by decide) (by decide +kernel) rfl

/-- The order goes out once at least, each time in a request that its receiver can verify. -/
structure SendsVerified (order : Order) (xs : List Exchange) : Prop where
  sent : xs ≠ []
  verified : ∀ x ∈ xs, x.request.order = order ∧ x.request.Verified c.credentials

variable {c} {order : Order}

theorem sendsVerified_attempt {α : Type} (check : Octets → Except ExchangeError α) (s : Session)
    (hkey : OnLine c.credentials.keyId) (ho : order.OnLine) :
    c.SendsVerified order ((c.attempt order check).exchanges s) := by
  obtain ⟨reply, hx, -, -⟩ := c.exchanged_attempt order check s
  rw [Action.exchanges_eq hx]
  refine ⟨List.cons_ne_nil _ _, List.forall_mem_singleton.2 ⟨order_request _ _ _, ?_⟩⟩
  exact c.verified_request order _ hkey ho

theorem Attempts.sends {clock : Nat → Instant} {further reading : Nat} {xs : List Exchange}
    {r : Except ExchangeError Text} (h : c.Attempts clock order further reading xs r)
    (hkey : OnLine c.credentials.keyId) (ho : order.OnLine) : c.SendsVerified order xs := by
  refine ⟨h.ne_nil, ?_⟩
  induction h with
  | success | failure =>
    exact List.forall_mem_singleton.2 ⟨order_request _ _ _, c.verified_request _ _ hkey ho⟩
  | again _ _ ih =>
    exact List.forall_mem_cons.2 ⟨⟨order_request _ _ _, c.verified_request _ _ hkey ho⟩, ih⟩

/-- What is signed is what is sent, in every attempt at a call and at storing an object, at any
time. -/
theorem sendsVerified (c : Client) (s : Session) (region : Region)
    (hkey : OnLine c.credentials.keyId) (hregion : OnLine region.name) :
    (∀ service form, c.SendsVerified (.call service region form)
      ((c.call service region form).exchanges s)) ∧
    ∀ bucket path body, OnLine bucket → c.SendsVerified (.put region bucket path body)
      ((c.put region bucket path body).exchanges s) := by
  refine ⟨fun service form => sendsVerified_attempt _ s hkey hregion, ?_⟩
  intro bucket path body hbucket
  obtain ⟨xs, hx, -, h⟩ := c.attempts_retryFrom (.put region bucket path body) Wire.checkStatus
    (fun _ => []) (fun _ => rfl) (c.maxAttempts - 1) 1 s
  have hxs : (c.put region bucket path body).exchanges s = xs := Action.exchanges_eq hx
  rw [hxs]
  exact h.sends hkey ⟨hregion, hbucket⟩

/-- A bucket with spaces and letters outside ASCII in its name. -/
theorem sendsVerified_spaced :
    let c : Client := ⟨⟨"AKID".toList, "secret".toList⟩, 3⟩
    let s : Session := { clock := fun n => ⟨n, false⟩, replies := [.broken []] }
    OnLine c.credentials.keyId ∧ OnLine "eu-west-1".toList ∧ OnLine " ä  b".toList ∧
      c.SendsVerified (.put ⟨"eu-west-1".toList⟩ " ä  b".toList "/a b?".toList [1, 2])
        ((c.put ⟨"eu-west-1".toList⟩ " ä  b".toList "/a b?".toList [1, 2]).exchanges s) := by
  intro c s
  have hkey : OnLine c.credentials.keyId := by decide +kernel
  have hregion : OnLine "eu-west-1".toList := by decide +kernel
  have hbucket : OnLine " ä  b".toList := by decide +kernel
  exact ⟨hkey, hregion, hbucket,
    (sendsVerified c s ⟨"eu-west-1".toList⟩ hkey hregion).2 _ _ _ hbucket⟩

end Client

end MachineImage
