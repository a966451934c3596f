import StreamFinder.Proofs.Web.Header
import StreamFinder.Socket.Opening
/-!
# What an opening is relied on for

Of its own fields a handshake has one value each on the wire, of all other
fields the values that the request has (`Handshake.carried`). An opening is
orderly if it writes just that, and refuses a request only for a value that
is not all visible ASCII or an address that it cannot open
(`Opening.IsOrderly`). The opening in use is orderly
(`isOrderly_standard`), so nothing impossible is asked of one.
-/

namespace StreamFinder.Socket

open Web Header

namespace Handshake

variable {h : Handshake} {name : String}

/-- The values that a request carries under a name: one if every handshake has the field. -/
def carried (h : Handshake) (name : String) : List String :=
  if isOwn name then (h.fields.values name).take 1 else h.fields.values name

end Handshake

open Handshake

/-- What is relied on: an opening writes what a request carries, nothing but
visible ASCII, and it writes each request for an unencrypted socket that
has all its own fields and carries nothing else. -/
structure Opening.IsOrderly (o : Opening) : Prop where
  values_eq : ∀ h lines, h.fields.IsProper → o.lines? h = some lines →
    ∀ name, valuesUnder lines name = h.carried name
  isVisible : ∀ h lines, o.lines? h = some lines → ∀ line ∈ lines, isVisible line.2 = true
  isSome : ∀ h : Handshake, h.fields.IsProper → h.uri.scheme = some "ws" →
    (∀ name ∈ ownNames, h.fields.values name ≠ []) →
    (∀ name, ∀ value ∈ h.carried name, Header.isVisible value = true) →
    (o.lines? h).isSome = true

/-! ## The opening in use -/

namespace Handshake

variable {h : Handshake} {name : String}

theorem isOwn_iff : isOwn name = true ↔ lowered name ∈ ownNames.map lowered := by
  simp only [isOwn, List.any_eq_true, sameName_iff, List.mem_map, eq_comm (a := lowered name)]

theorem isOwn_lowered (name : String) : isOwn (lowered name) = isOwn name := by
  rw [Bool.eq_iff_iff, isOwn_iff, isOwn_iff, lowered_lowered]

theorem map_lowered_ownNames : ownNames.map lowered =
    ["host", "connection", "upgrade", "sec-websocket-version", "sec-websocket-key"] := by
  decide

/-- The own names differ, so at most one of them is a name. -/
theorem flatMap_ownNames (values : List String) (name : String) :
    (ownNames.flatMap fun own => if sameName name own then values else []) =
      if isOwn name then values else [] := by
  have hlowered : (ownNames.flatMap fun own => if sameName name own then values else []) =
      (ownNames.map lowered).flatMap fun own => if lowered name = own then values else [] := by
    simp only [List.flatMap_map, sameName_iff]
  rw [hlowered, map_lowered_ownNames]
  simp only [isOwn_iff, map_lowered_ownNames]
  generalize lowered name = l
  grind

theorem lowered_writtenName (key : String) : lowered (writtenName key) = lowered key := by
  unfold writtenName
  split
  · next hprotocol =>
    rw [hprotocol]
    decide
  · split
    · next horigin =>
      rw [horigin]
      decide
    · rfl

theorem values_congr {a b : String} (h : sameName a b = true) (fields : Fields) :
    fields.values a = fields.values b := by
  rw [Fields.values, Fields.values, sameName_iff.1 h]

/-- **Line by line a request carries what it is to carry.** -/
theorem valuesUnder_lines (hproper : h.fields.IsProper) (name : String) :
    valuesUnder h.lines name = h.carried name := by
  have hown : valuesUnder
      (ownNames.flatMap fun own => ((h.fields.values own).take 1).map (own, ·)) name =
        if isOwn name then (h.fields.values name).take 1 else [] := by
    rw [valuesUnder_flatMap, ← flatMap_ownNames]
    refine congrArg (ownNames.flatMap ·) (funext fun own => ?_)
    split
    · next hsame => rw [values_congr hsame]
    · rfl
  have hother : valuesUnder ((h.fields.filter fun field => !isOwn field.1).flatMap fun field =>
      field.2.map (writtenName field.1, ·)) name =
        if isOwn name then [] else h.fields.values name := by
    rw [valuesUnder_flatMap]
    simp only [sameName_congr (lowered_writtenName _)]
    refine ((hproper.filter fun field => !isOwn field.1).flatMap_eq name).trans ?_
    rw [Fields.values_filter (fun key => !isOwn key), isOwn_lowered]
    cases isOwn name <;> rfl
  refine (valuesUnder_append _ _ name).trans ?_
  rw [hown, carried]
  refine (congrArg _ hother).trans ?_
  cases isOwn name <;> simp

end Handshake

/-- **The opening in use is orderly.** -/
theorem Opening.isOrderly_standard (isAgreed : Handshake → Bool) :
    (Opening.standard isAgreed).IsOrderly := by
  have hwritten {h : Handshake} {lines : List (String × String)}
      (hlines : (Opening.standard isAgreed).lines? h = some lines) :
      (∀ line ∈ h.lines, Header.isVisible line.2 = true) ∧ h.lines = lines := by
    obtain ⟨hall, heq⟩ := Option.ite_none_right_eq_some.1 hlines
    exact ⟨List.all_eq_true.1 (Bool.and_eq_true_iff.1 hall).2, Option.some.inj heq⟩
  refine ⟨fun h lines hproper hlines name => ?_, fun h lines hlines => ?_,
    fun h hproper hscheme _ hvisible => ?_⟩
  · rw [← (hwritten hlines).2, valuesUnder_lines hproper]
  · obtain ⟨hvisible, rfl⟩ := hwritten hlines
    exact hvisible
  · have hall : ∀ line ∈ h.lines, Header.isVisible line.2 = true := fun line hline =>
      hvisible line.1 _ (valuesUnder_lines hproper line.1 ▸ mem_valuesUnder hline)
    have hsocket : h.isForSocket = true := by simp [isForSocket, hscheme]
    have hwrites : (h.isForSocket && h.lines.all fun line => Header.isVisible line.2) = true := by
      rw [hsocket, List.all_eq_true.2 hall]
      rfl
    exact Option.isSome_iff_exists.2 ⟨_, if_pos hwrites⟩

end StreamFinder.Socket
