import MachineImage.Proofs.EncodedPath
import MachineImage.Proofs.Verified

/-!
Requests taken apart to the octet. No path and no body, whatever they hold, adds a line to the head
of a request or ends it early, as long as the other values stay on their lines.
-/
namespace MachineImage.Wire

open Text

/-- A header line cut behind its first colon, which a space must follow. -/
def field? (line : Text) : Option Signing.Header :=
  match cut (· == ':') line with
  | some (name, ' ' :: value) => some (name, value)
  | _ => none

structure Message where
  /-- The parts of the first line. -/
  parts : List Text
  fields : List Signing.Header
  body : Octets
  deriving DecidableEq, Repr

/-- The message in the octets. Its head goes on to the first empty line, and all its lines but the
first must be header lines. -/
def message? (octets : Octets) : Option Message := do
  let (head, body) ← breakAfter separator [] octets
  let lines := (cutLines (← Utf8.decode? head)).takeWhile (· ≠ [])
  return ⟨split (· == ' ') (lines.headD []), ← (lines.drop 1).mapM field?, body⟩

theorem field?_headerText {h : Signing.Header} (hn : ':' ∉ h.1) :
    field? (headerText h) = some h := by
  have htext : headerText h = h.1 ++ ':' :: (' ' :: h.2) := by simp [headerText]
  rw [htext, field?, cut_sign hn]
  rfl

/-- What was put together line by line is taken apart to the same parts, and nothing of any value is
lost. -/
theorem message?_headText {method target version : Text} {headers : List Signing.Header}
    (hm : Visible method) (ht : Visible target) (hv : Visible version)
    (hn : ∀ h ∈ headers, Visible h.1 ∧ ':' ∉ h.1) (hh : ∀ h ∈ headers, OnLine h.2)
    (body : Octets) :
    message? (Utf8.encode (headText ((method ++ ' ' :: target ++ ' ' :: version) ::
      headers.map headerText)) ++ body) = some ⟨[method, target, version], headers, body⟩ := by
  have hlines := onLine_lines hm ht hv hn hh
  have hbefore : ((method ++ ' ' :: target ++ ' ' :: version) :: headers.map headerText ++
      [[], []]).takeWhile (· ≠ []) =
        (method ++ ' ' :: target ++ ' ' :: version) :: headers.map headerText := by
    rw [List.takeWhile_append_of_pos fun line hl => decide_eq_true (hlines line hl).2]
    exact List.append_nil _
  simp only [message?, breakAfter_headText hlines (by simp), Option.bind_eq_bind, Option.bind_some,
    List.reverse_nil, List.nil_append, Utf8.decode?_encode,
    cutLines_headText fun line hl => (hlines line hl).1, hbefore]
  rw [List.headD_cons, split_requestLine hm ht hv, List.drop_succ_cons, List.drop_zero,
    mapM_map_eq_some fun h hmem => field?_headerText (hn h hmem).2]
  rfl

/-- Requests are taken apart to what was put into them: the first line to its three parts, the head
to the list of its headers, the length of the body among them, and what stands behind the head is
the body. The second part of the line names the path of an object. -/
theorem framed_request {host : Text} {s : Signing.Signature} (hhost : OnLine host)
    (hs : s.OnLine) :
    (∀ path body, ∃ target, Percent.decode? target = some (Percent.rooted path) ∧
      message? (putRequest host path s body) =
        some ⟨["PUT".toList, target, "HTTP/1.1".toList], requestHeaders host s body
          [("Connection".toList, "close".toList)], body⟩) ∧
    ∀ form, message? (apiRequest host s form) =
      some ⟨["POST".toList, ['/'], "HTTP/1.0".toList], requestHeaders host s (Utf8.encode form)
        [("Content-Type".toList, "application/x-www-form-urlencoded".toList),
          ("Connection".toList, "close".toList)], Utf8.encode form⟩ := by
  refine ⟨fun path body => ⟨Percent.encodePath path, Percent.decode?_encodePath path, ?_⟩,
    fun form => ?_⟩
  · rw [putRequest_eq]
    apply message?_headText (by decide) (visible_encodePath path) (by decide)
    · exact names_requestHeaders (by decide +kernel)
    · exact onLine_requestHeaders hhost hs (by decide +kernel)
  · have hroot : Percent.encodePath ['/'] = ['/'] := by decide +kernel
    rw [apiRequest_eq, hroot]
    apply message?_headText (by decide) (by decide) (by decide)
    · exact names_requestHeaders (by decide +kernel)
    · exact onLine_requestHeaders hhost hs (by decide +kernel)

/-- A path with ends of lines and what looks like a header, and a body that begins with an empty
line. -/
theorem framed_request_injected :
    let host := "images.s3.amazonaws.com".toList
    let s : Signing.Signature := ⟨"e3b0".toList, "20260101T000000Z".toList, "AWS4 x: y".toList⟩
    let path := "/a HTTP/1.1\r\nHost: b\r\n\r\n?".toList
    let body := Utf8.encode "\r\n\r\n".toList
    OnLine host ∧ s.OnLine ∧ ∃ target, Percent.decode? target = some path ∧
      message? (putRequest host path s body) =
        some ⟨["PUT".toList, target, "HTTP/1.1".toList],
          [("Host".toList, host), ("X-Amz-Date".toList, s.timestamp),
            ("X-Amz-Content-SHA256".toList, s.payloadHash),
            ("Authorization".toList, s.authorization), ("Content-Length".toList, ['4']),
            ("Connection".toList, "close".toList)], body⟩ := by
  intro host s path body
  have hhost : OnLine host := by decide +kernel
  have hs : s.OnLine := ⟨by decide +kernel, by decide +kernel, by decide +kernel⟩
  have hlength : Decimal.digits body.length = ['4'] := by decide +kernel
  obtain ⟨target, hpath, hmessage⟩ := (framed_request hhost hs).1 path body
  rw [requestHeaders, hlength] at hmessage
  exact ⟨hhost, hs, target, hpath, hmessage⟩

end MachineImage.Wire
