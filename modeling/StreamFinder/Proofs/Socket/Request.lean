import StreamFinder.Proofs.Socket.Opening
import StreamFinder.Socket.Dial
/-!
# The request that a configuration makes

A configuration is looked at before anybody is dialed: its header fields in
their order, then its subprotocols. One that is spoilt makes a spoilt
attempt (`Attempt.spoilt`), whatever the proxy, the network and the opening.

The request that is made otherwise has each configured value behind those
that every handshake has, and one offer of subprotocols if there are any.
Not all of it is sent. An orderly opening takes the fields of every
handshake as they are without the configuration, and refuses the request
for a value that is not all visible ASCII; what is sent in the end is
`SocketConfig.carried`.
-/

namespace StreamFinder.Socket

open Text Web Header

/-! ## The fields that are configured -/

namespace SocketConfig

/-- The values that are configured under a name, which may be written in any case. -/
def configured (c : SocketConfig) (name : String) : List String := valuesUnder c.headers name

/-- The list of subprotocols as the value of a header field. -/
def offer (c : SocketConfig) : String := ", ".intercalate c.subprotocols

/-- The values that are sent under a name: the one of the handshake itself
if it has the field, else the offer of subprotocols under the name of it,
else what is configured. -/
def carried (c : SocketConfig) (key : String) (u : Uri) (name : String) : List String :=
  if Handshake.isOwn name then (Handshake.basicFields u key).values name
  else if c.subprotocols ≠ [] ∧ sameName name Handshake.protocolField then [c.offer]
  else c.configured name

end SocketConfig

namespace Handshake

variable {c : SocketConfig} {fields : Fields} {key url name : String} {u : Uri}

/-- Whether the name and the value of a header field are well formed. -/
def isWellFormed (header : String × String) : Bool := isName header.1 && isValue header.2

theorem addHeaders_cons (fields : Fields) (header : String × String)
    (rest : List (String × String)) :
    addHeaders fields (header :: rest) =
      if isWellFormed header then addHeaders (fields.append header.1 header.2) rest
      else .error (.invalidHeader header.1) :=
  rfl

/-- **The first ill-formed field is reported**, by its name as it is configured. -/
theorem addHeaders_of_not_isWellFormed {before after : List (String × String)}
    {header : String × String} (hbefore : ∀ header ∈ before, isWellFormed header = true)
    (hbad : isWellFormed header = false) :
    addHeaders fields (before ++ header :: after) = .error (.invalidHeader header.1) := by
  induction before generalizing fields with
  | nil => rw [List.nil_append, addHeaders_cons, hbad, if_neg Bool.false_ne_true]
  | cons first before ih =>
    rw [List.forall_mem_cons] at hbefore
    rw [List.cons_append, addHeaders_cons, if_pos hbefore.1, ih hbefore.2]

/-- **Each value is added behind those of its name**, if all fields are well formed. -/
theorem addHeaders_of_isWellFormed {headers : List (String × String)}
    (h : ∀ header ∈ headers, isWellFormed header = true) (hfields : fields.IsProper) :
    ∃ fields', addHeaders fields headers = .ok fields' ∧ fields'.IsProper ∧
      ∀ name, fields'.values name = fields.values name ++ valuesUnder headers name := by
  induction headers generalizing fields with
  | nil => exact ⟨fields, rfl, hfields, by simp [valuesUnder]⟩
  | cons header rest ih =>
    rw [List.forall_mem_cons] at h
    obtain ⟨fields', hadd, hproper, hvalues⟩ := ih h.2 (hfields.append header.1 header.2)
    refine ⟨fields', ?_, hproper, fun name => ?_⟩
    · rw [addHeaders_cons, if_pos h.1, hadd]
    · -- what is added first stands in front of what the rest adds
      rw [hvalues, Fields.values_append, List.append_assoc, valuesUnder, valuesUnder,
        List.filterMap_cons]
      split <;> simp_all

theorem addSubprotocols_of_not_isValue (hsome : c.subprotocols ≠ [])
    (hbad : isValue c.offer = false) :
    addSubprotocols fields c.subprotocols = .error (.invalidHeader protocolField) := by
  have hoffer : isValue (", ".intercalate c.subprotocols) = false := hbad
  simp [addSubprotocols, hsome, hoffer]

/-- **One offer takes the place of all that is configured** under the name of the field. -/
theorem addSubprotocols_of_isValue (h : c.subprotocols ≠ [] → isValue c.offer = true)
    (hfields : fields.IsProper) :
    ∃ fields', addSubprotocols fields c.subprotocols = .ok fields' ∧ fields'.IsProper ∧
      ∀ name, fields'.values name =
        if c.subprotocols ≠ [] ∧ sameName name protocolField then [c.offer]
        else fields.values name := by
  -- without subprotocols a field that is configured under the name stays
  by_cases hsome : c.subprotocols = []
  · exact ⟨fields, by simp [addSubprotocols, hsome], hfields, by simp [hsome]⟩
  · have hoffer : isValue (", ".intercalate c.subprotocols) = true := h hsome
    refine ⟨fields.replace protocolField c.offer, ?_, hfields.replace _ _, fun name => ?_⟩
    · simp [addSubprotocols, hsome, hoffer, SocketConfig.offer]
    · simp [Fields.values_replace, hsome]

theorem keys_basicFields (u : Uri) (key : String) :
    (basicFields u key).keys = ownNames.map lowered := by
  rw [map_lowered_ownNames]
  rfl

theorem isProper_basicFields (u : Uri) (key : String) : (basicFields u key).IsProper := by
  constructor <;> rw [keys_basicFields, map_lowered_ownNames] <;> decide

/-- Of the fields that every handshake has, each has one value. -/
theorem length_values_basicFields (u : Uri) (key name : String) :
    ((basicFields u key).values name).length = if isOwn name then 1 else 0 := by
  simp only [isOwn_iff, map_lowered_ownNames, basicFields, Fields.values_cons, Fields.values_nil]
  generalize lowered name = l
  grind

/-- The offer of subprotocols is no field that every handshake has. -/
theorem sameName_protocolField (hown : isOwn name = true) :
    sameName name protocolField = false := by
  refine Bool.eq_false_iff.2 fun hsame => ?_
  have hmem := isOwn_iff.1 hown
  rw [sameName_iff.1 hsame, map_lowered_ownNames] at hmem
  exact absurd hmem (by decide)

section Values

variable {h : Handshake} (hvalues : ∀ name, h.fields.values name =
  if c.subprotocols ≠ [] ∧ sameName name protocolField then [c.offer]
  else (basicFields u key).values name ++ c.configured name)
include hvalues

/-- What is configured under an own name comes behind the value of the handshake. -/
theorem values_of_isOwn (hown : isOwn name = true) :
    h.fields.values name = (basicFields u key).values name ++ c.configured name := by
  rw [hvalues, if_neg (by simp [sameName_protocolField hown])]

theorem values_ne_nil_of_isOwn (hown : isOwn name = true) : h.fields.values name ≠ [] := by
  have hlength := length_values_basicFields u key name
  rw [if_pos hown] at hlength
  rw [values_of_isOwn hvalues hown]
  exact List.append_ne_nil_of_left_ne_nil (List.ne_nil_of_length_eq_add_one hlength) _

/-- What a request is to carry, of the values that it has. -/
theorem carried_eq (name : String) : h.carried name = c.carried key u name := by
  have hlength := length_values_basicFields u key name
  unfold carried SocketConfig.carried
  by_cases hown : isOwn name = true
  · rw [if_pos hown] at hlength
    rw [if_pos hown, if_pos hown, values_of_isOwn hvalues hown,
      List.take_append_of_le_length (Nat.le_of_eq hlength.symm),
      List.take_of_length_le (Nat.le_of_eq hlength)]
  · rw [if_neg hown] at hlength
    rw [if_neg hown, if_neg hown, hvalues, List.eq_nil_of_length_eq_zero hlength, List.nil_append]

end Values

/-- What is carried is visible if all that is written into a request is. -/
theorem isVisible_of_mem_carried (hhost : isVisible (String.ofList u.hostHeader) = true)
    (hkey : isVisible key = true) (hheaders : ∀ header ∈ c.headers, isVisible header.2 = true)
    (hoffer : isVisible c.offer = true) {value : String} (hvalue : value ∈ c.carried key u name) :
    isVisible value = true := by
  have hfixed : isVisible "Upgrade" = true ∧ isVisible "websocket" = true ∧
      isVisible "13" = true := by decide
  unfold SocketConfig.carried at hvalue
  split at hvalue
  · simp only [basicFields, Fields.values_cons, Fields.values_nil] at hvalue
    grind
  · split at hvalue
    · rwa [List.mem_singleton.1 hvalue]
    · obtain ⟨header, hheader, rfl⟩ := exists_line_of_mem_valuesUnder hvalue
      exact hheaders header hheader

end Handshake

open Handshake

/-! ## The request -/

section Request

variable {key url : String} {u : Uri} {c : SocketConfig}

theorem build_of_not_isWellFormed (hurl : uri? url = some u)
    {before after : List (String × String)} {header : String × String}
    (hheaders : c.headers = before ++ header :: after)
    (hbefore : ∀ header ∈ before, isWellFormed header = true)
    (hbad : isWellFormed header = false) :
    build key url c = .error (.invalidHeader header.1) := by
  simp only [build, hurl, hheaders, addHeaders_of_not_isWellFormed hbefore hbad]

theorem build_of_not_isValue (hurl : uri? url = some u)
    (hheaders : ∀ header ∈ c.headers, isWellFormed header = true) (hsome : c.subprotocols ≠ [])
    (hbad : isValue c.offer = false) :
    build key url c = .error (.invalidHeader protocolField) := by
  obtain ⟨fields, hadd, -⟩ := addHeaders_of_isWellFormed hheaders (isProper_basicFields u key)
  simp only [build, hurl, hadd, addSubprotocols_of_not_isValue hsome hbad]

/-- What is configured under a name comes behind what every handshake has under it. -/
theorem exists_build (key : String) (hurl : uri? url = some u)
    (hheaders : ∀ header ∈ c.headers, isWellFormed header = true)
    (hoffer : c.subprotocols ≠ [] → isValue c.offer = true) :
    ∃ h, build key url c = .ok h ∧ h.uri = u ∧ h.fields.IsProper ∧
      ∀ name, h.fields.values name =
        if c.subprotocols ≠ [] ∧ sameName name protocolField then [c.offer]
        else (basicFields u key).values name ++ c.configured name := by
  obtain ⟨added, hadd, hproper, hadded⟩ :=
    addHeaders_of_isWellFormed hheaders (isProper_basicFields u key)
  obtain ⟨fields, hprotocols, hproper, hvalues⟩ := addSubprotocols_of_isValue hoffer hproper
  refine ⟨⟨u, fields⟩, by simp only [build, hurl, hadd, hprotocols], rfl, hproper, fun name => ?_⟩
  rw [hvalues, hadded]
  rfl

/-! ## The attempt -/

section Attempt

variable {network : Network} {opening : Opening} {h : Handshake} {lines : List (String × String)}

theorem make_of_build_error {e : SocketError} (hbuild : build key url c = .error e) :
    Attempt.make network opening key url c = .spoilt e := by
  rw [Attempt.make, hbuild]

/-- Where no connection stands, nothing is sent to the peer. -/
theorem make_of_way_error (hbuild : build key url c = .ok h) {e : SocketError}
    (hway : (Way.make network c h).outcome = .error e) :
    (Attempt.make network opening key url c).sentToPeer = none ∧
      (Attempt.make network opening key url c).outcome = .error e := by
  simp only [Attempt.make, hbuild, hway, and_self]

/-- **Where a connection stands, the opening decides** what is sent. -/
theorem sentToPeer_make (hbuild : build key url c = .ok h)
    (hway : (Way.make network c h).outcome = .ok ()) :
    (Attempt.make network opening key url c).sentToPeer = opening.lines? h := by
  simp only [Attempt.make, hbuild, hway]
  cases opening.lines? h <;> rfl

theorem outcome_make_of_refused (hbuild : build key url c = .ok h)
    (hway : (Way.make network c h).outcome = .ok ()) (hlines : opening.lines? h = none) :
    (Attempt.make network opening key url c).outcome = .error .transport := by
  simp only [Attempt.make, hbuild, hway, hlines]

/-- What is sent to the peer is what the opening has written. -/
theorem lines?_eq_of_sentToPeer (hbuild : build key url c = .ok h)
    (hsent : (Attempt.make network opening key url c).sentToPeer = some lines) :
    opening.lines? h = some lines := by
  cases hway : (Way.make network c h).outcome with
  | error e =>
    rw [(make_of_way_error hbuild hway).1] at hsent
    cases hsent
  | ok _ => rwa [sentToPeer_make hbuild hway] at hsent

/-- A value that is not visible is not written, and so nothing is. -/
theorem lines?_eq_none (ho : opening.IsOrderly) (hproper : h.fields.IsProper) {name value : String}
    (hvalue : value ∈ h.carried name) (hbad : isVisible value = false) :
    opening.lines? h = none := by
  refine Option.eq_none_iff_forall_ne_some.2 fun lines hlines => ?_
  rw [← ho.values_eq h lines hproper hlines name] at hvalue
  obtain ⟨line, hline, rfl⟩ := exists_line_of_mem_valuesUnder hvalue
  rw [ho.isVisible h lines hlines line hline] at hbad
  cases hbad

/-- **A configuration is checked before anything is done, and then carried.**
The first header field whose name or value is ill formed is reported, by its
name as configured; next, a list of subprotocols that is. Neither depends on
the proxy, the network or the opening, and nobody is dialed before.
Otherwise a request is made whose fields stand once each. What is configured
under a name is all there in its order, behind what every handshake has; but
if there are subprotocols, one offer of them is all there is under its name.
Of this request an orderly opening sends the fields of every handshake
without what is configured under their names, and all other values. It does
so where a connection stands, with no encryption in between, unless one of
the values is not all visible ASCII: then nothing is sent at all. -/
theorem configuration_is_checked_then_carried (hurl : uri? url = some u) (key : String)
    (c : SocketConfig) (network : Network) (opening : Opening) :
    let attempt := Attempt.make network opening key url c
    (∀ before name value after, c.headers = before ++ (name, value) :: after →
      (∀ header ∈ before, isWellFormed header = true) → isWellFormed (name, value) = false →
      attempt = .spoilt (.invalidHeader name)) ∧
    ((∀ header ∈ c.headers, isWellFormed header = true) → c.subprotocols ≠ [] →
      isValue c.offer = false → attempt = .spoilt (.invalidHeader "sec-websocket-protocol")) ∧
    ((∀ header ∈ c.headers, isWellFormed header = true) →
      (c.subprotocols ≠ [] → isValue c.offer = true) →
      ∃ h : Handshake, build key url c = .ok h ∧ h.uri = u ∧ h.fields.IsProper ∧
        (∀ name, h.fields.values name =
          if c.subprotocols ≠ [] ∧ sameName name "sec-websocket-protocol" then [c.offer]
          else (basicFields u key).values name ++ c.configured name) ∧
        (opening.IsOrderly →
          (∀ lines, attempt.sentToPeer = some lines →
            ∀ name, valuesUnder lines name = c.carried key u name) ∧
          (∀ e, (Way.make network c h).outcome = .error e →
            attempt.sentToPeer = none ∧ attempt.outcome = .error e) ∧
          ((Way.make network c h).outcome = .ok () →
            (∃ name, ∃ value ∈ c.carried key u name, isVisible value = false) →
            attempt.sentToPeer = none ∧ attempt.outcome = .error .transport) ∧
          ((Way.make network c h).outcome = .ok () → u.scheme = some "ws" →
            (∀ name, ∀ value ∈ c.carried key u name, isVisible value = true) →
            attempt.sentToPeer.isSome = true))) := by
  refine ⟨fun before name value after hheaders hbefore hbad => ?_,
    fun hheaders hsome hbad => ?_, fun hheaders hoffer => ?_⟩
  · exact make_of_build_error (build_of_not_isWellFormed hurl hheaders hbefore hbad)
  · exact make_of_build_error (build_of_not_isValue hurl hheaders hsome hbad)
  · obtain ⟨h, hbuild, huri, hproper, hvalues⟩ := exists_build key hurl hheaders hoffer
    have hcarried := carried_eq hvalues
    refine ⟨h, hbuild, huri, hproper, hvalues, fun ho => ⟨fun lines hsent name => ?_,
      fun e hway => make_of_way_error hbuild hway, fun hway hbad => ?_,
      fun hway hscheme hvisible => ?_⟩⟩
    · have hlines := lines?_eq_of_sentToPeer hbuild hsent
      rw [ho.values_eq h lines hproper hlines, hcarried]
    · obtain ⟨name, value, hvalue, hbad⟩ := hbad
      have hrefused := lines?_eq_none ho hproper (hcarried name ▸ hvalue) hbad
      exact ⟨(sentToPeer_make hbuild hway).trans hrefused,
        outcome_make_of_refused hbuild hway hrefused⟩
    · rw [sentToPeer_make hbuild hway]
      refine ho.isSome h hproper (by rw [huri, hscheme]) (fun name hname => ?_) fun name => ?_
      · exact values_ne_nil_of_isOwn hvalues (isOwn_iff.2 (List.mem_map_of_mem hname))
      · rw [hcarried]
        exact hvisible name

/-- A name with a blank is reported although the proxy is no URL either. Two values under one name
in different cases are both sent, and the offer of two subprotocols takes the place of a
configured one, which a list without any leaves. -/
theorem mixed_headers_are_carried :
    let url := "ws://peer/"
    let spoilt : SocketConfig := { SocketConfig.ofUrl url with
      headers := [("X-Tag", "1"), ("bad name", "2"), ("x", "\x01")], proxy := some "nowhere" }
    let mixed : SocketConfig := { SocketConfig.ofUrl url with
      headers := [("X-Tag", "1"), ("Sec-WebSocket-Protocol", "old"), ("x-tag", "2")],
      subprotocols := ["a", "b"] }
    let attempt := Attempt.make (fun _ _ => .ok id) (.standard fun _ => true) "key" url
    attempt spoilt = .spoilt (.invalidHeader "bad name") ∧
    attempt { mixed with subprotocols := ["\n"] } =
      .spoilt (.invalidHeader "sec-websocket-protocol") ∧
    (∃ lines, (attempt mixed).sentToPeer = some lines ∧ valuesUnder lines "X-TAG" = ["1", "2"] ∧
      valuesUnder lines "sec-websocket-protocol" = ["a, b"]) ∧
    ∃ lines, (attempt { mixed with subprotocols := [] }).sentToPeer = some lines ∧
      valuesUnder lines "sec-websocket-protocol" = ["old"] := by
  intro url spoilt mixed attempt
  have hurl : uri? url = some ⟨some "ws", "peer", "/"⟩ := by decide
  have hresult c := configuration_is_checked_then_carried hurl "key" c (fun _ _ => .ok id)
    (.standard fun _ => true)
  have hcarried (c : SocketConfig) (hheaders : ∀ header ∈ c.headers, isWellFormed header = true)
      (hoffer : c.subprotocols ≠ [] → isValue c.offer = true) (hproxy : c.proxy = none)
      (hvisible : (∀ header ∈ c.headers, isVisible header.2 = true) ∧ isVisible c.offer = true) :
      ∃ lines, (attempt c).sentToPeer = some lines ∧ ∀ name, valuesUnder lines name =
        c.carried "key" ⟨some "ws", "peer", "/"⟩ name := by
    obtain ⟨h, -, huri, -, -, hopening⟩ := (hresult c).2.2 hheaders hoffer
    obtain ⟨hlines, -, -, hsome⟩ := hopening (Opening.isOrderly_standard _)
    have hway : (Way.make (fun _ _ => .ok id) c h).outcome = .ok () := by
      simp [Way.make, hproxy, Way.dialedPort?, huri]
    have hsent := hsome hway rfl fun name value hvalue =>
      isVisible_of_mem_carried (by decide) (by decide) hvisible.1 hvisible.2 hvalue
    obtain ⟨lines, hsent⟩ := Option.isSome_iff_exists.1 hsent
    exact ⟨lines, hsent, hlines lines hsent⟩
  refine ⟨?_, ?_, ?_, ?_⟩
  · exact (hresult spoilt).1 [("X-Tag", "1")] _ "2" _ rfl (by decide) (by decide)
  · exact (hresult { mixed with subprotocols := ["\n"] }).2.1 (by decide) (by decide) (by decide)
  · obtain ⟨lines, hsent, hvalues⟩ := hcarried mixed (by decide) (by decide) rfl (by decide)
    exact ⟨lines, hsent, hvalues "X-TAG", hvalues "sec-websocket-protocol"⟩
  · obtain ⟨lines, hsent, hvalues⟩ := hcarried { mixed with subprotocols := [] } (by decide)
      (by decide) rfl (by decide)
    exact ⟨lines, hsent, hvalues "sec-websocket-protocol"⟩

/-- A host is well formed as a field, and the peer is sent its own all the same. A value with an
accent is well formed too, and with it nothing is sent at all. -/
theorem configured_host_is_not_sent :
    let attempt (header : String × String) :=
      Attempt.make (fun _ _ => .ok id) (.standard fun _ => true) "key" "ws://peer/"
        { SocketConfig.ofUrl "ws://peer/" with headers := [header] }
    (isWellFormed ("Host", "cdn") = true ∧ (attempt ("Host", "cdn")).outcome = .ok () ∧
      (attempt ("Host", "cdn")).sentToPeer.map (valuesUnder · "Host") = some ["peer"]) ∧
    isWellFormed ("X-Name", "é") = true ∧ (attempt ("X-Name", "é")).sentToPeer = none ∧
      (attempt ("X-Name", "é")).outcome = .error .transport :=
  ⟨⟨by decide, rfl, by decide⟩, by decide, rfl, rfl⟩

end Attempt

end Request

end StreamFinder.Socket
