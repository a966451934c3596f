import StreamFinder.Proofs.Text.Bytes
import StreamFinder.Proofs.Text.Word
import StreamFinder.Socket.Tunnel
/-!
# Where a tunnel begins

The head of a proxy's answer ends with its first empty line, and the first
byte behind it belongs to the other end of the tunnel. The head is read byte
by byte, and whether it has ended is asked before whether there is room for
more: so a head may fill the room to its last byte (`readHead_of_ends`), and
a failure is either that the room is filled or that the answer is over
(`readHead_of_not_ends`). Whether the proxy goes on sending or not makes no
difference to either.
-/

namespace StreamFinder.Socket

open Text

/-! ## Replies -/

namespace Reply

/-- The first bytes of a reply, or all of them if there are fewer. -/
def take (n : ℕ) : Reply → List UInt8
  | .closing bytes => bytes.take n
  | .endless bytes => (List.range n).map bytes

/-- What is left of a reply behind its first bytes. -/
def drop (n : ℕ) : Reply → Reply
  | .closing bytes => .closing (bytes.drop n)
  | .endless bytes => .endless fun i => bytes (n + i)

variable {reply rest : Reply} {b : UInt8}

@[simp] theorem take_zero (reply : Reply) : reply.take 0 = [] := by
  cases reply <;> rfl

@[simp] theorem drop_zero (reply : Reply) : reply.drop 0 = reply := by
  cases reply <;> simp [drop]

theorem take_of_next?_none (h : reply.next? = none) (n : ℕ) : reply.take n = [] := by
  cases reply with
  | closing bytes =>
    cases bytes with
    | nil => exact List.take_nil
    | cons b rest => cases h
  | endless bytes => cases h

theorem drop_of_next?_none (h : reply.next? = none) (n : ℕ) : reply.drop n = reply := by
  cases reply with
  | closing bytes =>
    cases bytes with
    | nil => exact congrArg closing List.drop_nil
    | cons b rest => cases h
  | endless bytes => cases h

theorem take_succ_of_next? (h : reply.next? = some (b, rest)) (n : ℕ) :
    reply.take (n + 1) = b :: rest.take n := by
  cases reply with
  | closing bytes =>
    cases bytes with
    | nil => cases h
    | cons b rest =>
      cases h
      rfl
  | endless bytes =>
    cases h
    simp only [take, List.range_succ_eq_map, List.map_cons, List.map_map]
    rfl

/-- A byte that was read may be counted to what was read before. -/
theorem append_take_succ (h : reply.next? = some (b, rest)) (seen : List UInt8) (n : ℕ) :
    seen ++ reply.take (n + 1) = (seen ++ [b]) ++ rest.take n := by
  rw [take_succ_of_next? h, List.append_assoc, List.singleton_append]

theorem drop_succ_of_next? (h : reply.next? = some (b, rest)) (n : ℕ) :
    reply.drop (n + 1) = rest.drop n := by
  cases reply with
  | closing bytes =>
    cases bytes with
    | nil => cases h
    | cons b rest =>
      cases h
      rfl
  | endless bytes =>
    cases h
    refine congrArg endless (funext fun i => congrArg bytes ?_)
    omega

end Reply

namespace Tunnel

/-! ## The end of a head -/

/-- A line end and an empty line. -/
def emptyLine : List UInt8 := [0x0d, 0x0a, 0x0d, 0x0a]

/-- The first empty line of an answer ends behind its first `n` bytes. -/
structure HeadEndsAt (answer : Reply) (n : ℕ) : Prop where
  ends : emptyLine <:+ answer.take n
  first : ∀ m < n, ¬ emptyLine <:+ answer.take m

/-- The bytes up to the end of a head are there. -/
theorem HeadEndsAt.length_take {answer : Reply} {n : ℕ} (h : HeadEndsAt answer n) :
    (answer.take n).length = n := by
  cases answer with
  | endless bytes => simp [Reply.take]
  | closing bytes =>
    have hends : emptyLine <:+ bytes.take n := h.ends
    by_contra hne
    rw [Reply.take, List.length_take] at hne
    -- a reply that is shorter has ended with the empty line before
    refine h.first bytes.length (by omega) ?_
    rw [List.take_of_length_le (by omega)] at hends
    rwa [Reply.take, List.take_length]

theorem isPrefixOf_reverse_iff {seen : List UInt8} :
    headEnd.isPrefixOf seen.reverse = true ↔ emptyLine <:+ seen := by
  have hreverse : headEnd = emptyLine.reverse := rfl
  rw [List.isPrefixOf_iff_prefix, hreverse, List.reverse_prefix]

variable {room : ℕ} {seen : List UInt8} {answer rest : Reply} {b : UInt8}

/-- Before another byte is read, what was read is all there is. -/
theorem not_emptyLine_of_zero (h : ¬ emptyLine <:+ seen ++ answer.take 0) :
    ¬ emptyLine <:+ seen := by
  rwa [Reply.take_zero, List.append_nil] at h

theorem readHead_of_emptyLine (h : emptyLine <:+ seen) :
    readHead room seen.reverse answer = (.ok seen, answer) := by
  rw [readHead.eq_def, if_pos (isPrefixOf_reverse_iff.2 h), List.reverse_reverse]

theorem readHead_zero (h : ¬ emptyLine <:+ seen) : readHead 0 seen.reverse answer =
    (.error (.tunnelRefused "response head too large"), answer) := by
  rw [readHead, if_neg fun hends => h (isPrefixOf_reverse_iff.1 hends)]

theorem readHead_of_next?_none (h : ¬ emptyLine <:+ seen) (hnext : answer.next? = none) :
    readHead (room + 1) seen.reverse answer =
      (.error (.tunnelRefused "connection closed during CONNECT"), answer) := by
  rw [readHead, if_neg fun hends => h (isPrefixOf_reverse_iff.1 hends)]
  simp only [hnext]

/-- One more byte is read where the head has not ended and there is room. -/
theorem readHead_succ (h : ¬ emptyLine <:+ seen) (hnext : answer.next? = some (b, rest)) :
    readHead (room + 1) seen.reverse answer = readHead room (seen ++ [b]).reverse rest := by
  rw [readHead, if_neg fun hends => h (isPrefixOf_reverse_iff.1 hends), List.reverse_concat]
  simp only [hnext]

/-- **Reading stops right behind the first empty line**, if there is room for it. -/
theorem readHead_of_ends {n : ℕ} (hroom : n ≤ room) (hends : emptyLine <:+ seen ++ answer.take n)
    (hfirst : ∀ m < n, ¬ emptyLine <:+ seen ++ answer.take m) :
    readHead room seen.reverse answer = (.ok (seen ++ answer.take n), answer.drop n) := by
  induction n generalizing room seen answer with
  | zero =>
    rw [Reply.take_zero, List.append_nil] at hends ⊢
    rw [readHead_of_emptyLine hends, Reply.drop_zero]
  | succ n ih =>
    have hseen := not_emptyLine_of_zero (hfirst 0 (Nat.succ_pos n))
    obtain ⟨room, rfl⟩ : ∃ k, room = k + 1 := ⟨room - 1, by omega⟩
    cases hnext : answer.next? with
    | none =>
      -- an answer that is over does not end with what it has not ended with before
      rw [Reply.take_of_next?_none hnext, List.append_nil] at hends
      exact absurd hends hseen
    | some next =>
      obtain ⟨b, rest⟩ := next
      rw [Reply.append_take_succ hnext] at hends ⊢
      rw [readHead_succ hseen hnext, Reply.drop_succ_of_next? hnext]
      refine ih (by omega) hends fun m hm => ?_
      rw [← Reply.append_take_succ hnext]
      exact hfirst (m + 1) (by omega)

/-- Why a head without an end is refused. -/
def whyRefused (answer : Reply) (room : ℕ) : String :=
  if (answer.take room).length = room then "response head too large"
  else "connection closed during CONNECT"

theorem whyRefused_succ (hnext : answer.next? = some (b, rest)) (room : ℕ) :
    whyRefused answer (room + 1) = whyRefused rest room := by
  simp only [whyRefused, Reply.take_succ_of_next? hnext, List.length_cons, Nat.add_right_cancel_iff]

/-- **Without an empty line the room is filled or the answer is over.** -/
theorem readHead_of_not_ends (hnone : ∀ m ≤ room, ¬ emptyLine <:+ seen ++ answer.take m) :
    readHead room seen.reverse answer =
      (.error (.tunnelRefused (whyRefused answer room)), answer.drop room) := by
  induction room generalizing seen answer with
  | zero =>
    have hseen := not_emptyLine_of_zero (hnone 0 (Nat.le_refl 0))
    rw [readHead_zero hseen, Reply.drop_zero, whyRefused, Reply.take_zero]
    rfl
  | succ room ih =>
    have hseen := not_emptyLine_of_zero (hnone 0 (Nat.zero_le _))
    cases hnext : answer.next? with
    | none =>
      rw [readHead_of_next?_none hseen hnext, Reply.drop_of_next?_none hnext, whyRefused,
        Reply.take_of_next?_none hnext]
      rfl
    | some next =>
      obtain ⟨b, rest⟩ := next
      rw [readHead_succ hseen hnext, whyRefused_succ hnext, Reply.drop_succ_of_next? hnext]
      refine ih fun m hm => ?_
      rw [← Reply.append_take_succ hnext]
      exact hnone (m + 1) (by omega)

/-- Where no first empty line ends, none ends at all. -/
theorem not_ends_of_not_headEndsAt {limit : ℕ} (h : ∀ n ≤ limit, ¬ HeadEndsAt answer n) :
    ∀ n ≤ limit, ¬ emptyLine <:+ answer.take n := by
  intro n
  induction n using Nat.strong_induction_on with
  | _ n ih =>
    intro hn hends
    exact h n hn ⟨hends, fun m hm => ih m hm (by omega)⟩

theorem readHead_of_headEndsAt {n : ℕ} (hroom : n ≤ room) (h : HeadEndsAt answer n) :
    readHead room [] answer = (.ok (answer.take n), answer.drop n) :=
  @readHead_of_ends room [] answer n hroom h.ends h.first

theorem readHead_of_not_headEndsAt (h : ∀ n ≤ room, ¬ HeadEndsAt answer n) :
    readHead room [] answer =
      (.error (.tunnelRefused (whyRefused answer room)), answer.drop room) :=
  @readHead_of_not_ends room [] answer (not_ends_of_not_headEndsAt h)

/-! ## The first line of a head -/

/-- The first line of a text: it ends before a line feed, or before a
carriage return and a line feed, or with the text. -/
inductive IsFirstLine : List Char → List Char → Prop
  | fed {line : List Char} (rest : List Char) : '\n' ∉ line → line.getLast? ≠ some '\r' →
      IsFirstLine (line ++ '\n' :: rest) line
  | returned {line : List Char} (rest : List Char) : '\n' ∉ line →
      IsFirstLine (line ++ '\r' :: '\n' :: rest) line
  | unended {line : List Char} : '\n' ∉ line → IsFirstLine line line

theorem takeWhile_append_feed {line : List Char} (h : '\n' ∉ line) (rest : List Char) :
    (line ++ '\n' :: rest).takeWhile (· ≠ '\n') = line := by
  have hline : ∀ c ∈ line, decide (c ≠ '\n') = true :=
    fun c hc => decide_eq_true fun heq => h (heq ▸ hc)
  rw [List.takeWhile_append_of_pos hline, List.takeWhile_cons_of_neg (by simp), List.append_nil]

theorem firstLine_of_notMem {line : List Char} (h : '\n' ∉ line) : firstLine line = line := by
  have hline : line.takeWhile (· ≠ '\n') = line :=
    List.takeWhile_eq_self_iff.2 fun c hc => decide_eq_true fun heq => h (heq ▸ hc)
  simp only [firstLine, hline, Nat.lt_irrefl, if_false]

theorem firstLine_of_returned {line : List Char} (h : '\n' ∉ line) (rest : List Char) :
    firstLine (line ++ '\r' :: '\n' :: rest) = line := by
  have hline : '\n' ∉ line ++ ['\r'] := by simp [h]
  have htake := takeWhile_append_feed hline rest
  rw [List.append_assoc, List.singleton_append] at htake
  have hshorter : (line ++ ['\r']).length < (line ++ '\r' :: '\n' :: rest).length := by
    simp only [List.length_append, List.length_cons, List.length_nil]
    omega
  simp only [firstLine, htake, if_pos hshorter, List.reverse_append, List.reverse_singleton,
    List.singleton_append, List.reverse_reverse]

theorem firstLine_of_fed {line : List Char} (h : '\n' ∉ line) (hlast : line.getLast? ≠ some '\r')
    (rest : List Char) : firstLine (line ++ '\n' :: rest) = line := by
  -- so there is no carriage return to leave out
  have hreverse : ∀ more, line.reverse ≠ '\r' :: more := fun more heq => hlast (by
    rw [List.getLast?_eq_head?_reverse, heq]
    rfl)
  simp only [firstLine, takeWhile_append_feed h rest]
  split <;> rfl

/-- **The first line is what is read up to the first line end.** -/
theorem firstLine_eq_iff {text line : List Char} :
    firstLine text = line ↔ IsFirstLine text line := by
  constructor
  · rintro rfl
    by_cases hfeed : '\n' ∈ text
    · obtain ⟨line, rest, rfl, hline⟩ := List.eq_append_cons_of_mem hfeed
      rcases List.eq_nil_or_concat line with rfl | ⟨front, last, rfl⟩
      · rw [firstLine_of_fed hline (by simp)]
        exact .fed rest hline (by simp)
      · rw [List.concat_eq_append] at hline ⊢
        by_cases hlast : last = '\r'
        · -- the carriage return belongs to the line end
          subst hlast
          have hfront : '\n' ∉ front := fun hmem => hline (List.mem_append_left _ hmem)
          rw [List.append_assoc, List.singleton_append, firstLine_of_returned hfront]
          exact .returned rest hfront
        · have hback : (front ++ [last]).getLast? ≠ some '\r' := by simp [hlast]
          rw [firstLine_of_fed hline hback]
          exact .fed rest hline hback
    · rw [firstLine_of_notMem hfeed]
      exact .unended hfeed
  · intro h
    cases h with
    | fed rest hline hlast => exact firstLine_of_fed hline hlast rest
    | returned rest hline => exact firstLine_of_returned hline rest
    | unended hline => exact firstLine_of_notMem hline

/-! ## The answer of a proxy -/

theorem grants_iff {line : List Char} :
    grants line = true ↔ HasSecondWord line ['2', '0', '0'] := by
  rw [← getElem?_words_one_iff, grants, decide_eq_true_iff]

theorem accept_of_readHead_error {e : SocketError}
    (h : readHead maxHead [] answer = (.error e, rest)) :
    accept answer = .error e := by
  simp only [accept, h]

theorem accept_of_readHead_ok {head : List UInt8}
    (h : readHead maxHead [] answer = (.ok head, rest)) :
    accept answer = if grants (statusLine head) then .ok rest
      else .error (.tunnelRefused (String.ofList (statusLine head))) := by
  simp only [accept, h]

/-- A tunnel through a proxy that is reached comes to what the proxy answers. -/
theorem outcome_dig {network : Network} {proxy proxyHost host : String} {port proxyPort : ℕ}
    {u : Web.Url} {answers : List UInt8 → List UInt8}
    (hproxy : proxyUrl? proxy = some (u, proxyHost, proxyPort))
    (hnetwork : network (unbracketed proxyHost) proxyPort = .ok answers) :
    (dig network proxy host port).outcome =
      accept (.closing (answers (utf8 (request u host port).toList))) := by
  simp only [dig, hproxy, hnetwork]

/-- **A tunnel begins on the byte behind the first empty line.** If the
first empty line of an answer ends within the room for a head, just the
bytes up to it are taken; the tunnel stands if the second word of the first
line is `200`, and is refused with this line otherwise. If none ends there,
the failure tells whether the room was filled or the answer was over before.
This is so whether the proxy closes the connection or sends for ever, and a
tunnel through a proxy that is reached comes to just that. -/
theorem tunnel_begins_behind_head (answer : Reply) :
    (∀ n ≤ maxHead, HeadEndsAt answer n →
      (answer.take n).length = n ∧
      readHead maxHead [] answer = (.ok (answer.take n), answer.drop n) ∧
      ∃ line, IsFirstLine (lossy (answer.take n)) line ∧
        (HasSecondWord line ['2', '0', '0'] → accept answer = .ok (answer.drop n)) ∧
        (¬ HasSecondWord line ['2', '0', '0'] →
          accept answer = .error (.tunnelRefused (String.ofList line)))) ∧
    ((∀ n ≤ maxHead, ¬ HeadEndsAt answer n) → (answer.take maxHead).length = maxHead →
      readHead maxHead [] answer =
        (.error (.tunnelRefused "response head too large"), answer.drop maxHead) ∧
      accept answer = .error (.tunnelRefused "response head too large")) ∧
    ((∀ n ≤ maxHead, ¬ HeadEndsAt answer n) → (answer.take maxHead).length < maxHead →
      accept answer = .error (.tunnelRefused "connection closed during CONNECT")) ∧
    ∀ (network : Network) (proxy proxyHost host : String) (port proxyPort : ℕ) (u : Web.Url)
      (answers : List UInt8 → List UInt8), proxyUrl? proxy = some (u, proxyHost, proxyPort) →
      network (unbracketed proxyHost) proxyPort = .ok answers →
      answer = .closing (answers (utf8 (request u host port).toList)) →
      (dig network proxy host port).outcome = accept answer := by
  refine ⟨fun n hn hends => ?_, fun hnone hfilled => ?_, fun hnone hover => ?_,
    fun network proxy proxyHost host port proxyPort u answers hproxy hnetwork hanswer => ?_⟩
  · have hread : readHead maxHead [] answer = (.ok (answer.take n), answer.drop n) :=
      readHead_of_headEndsAt hn hends
    refine ⟨hends.length_take, hread, statusLine (answer.take n), firstLine_eq_iff.1 rfl,
      fun hgrants => ?_, fun hrefuses => ?_⟩
    · rw [accept_of_readHead_ok hread, if_pos (grants_iff.2 hgrants)]
    · rw [accept_of_readHead_ok hread, if_neg fun hgrants => hrefuses (grants_iff.1 hgrants)]
  · have hread : readHead maxHead [] answer = _ :=
      readHead_of_not_headEndsAt hnone
    rw [whyRefused, if_pos hfilled] at hread
    exact ⟨hread, accept_of_readHead_error hread⟩
  · have hread : readHead maxHead [] answer = _ :=
      readHead_of_not_headEndsAt hnone
    rw [whyRefused, if_neg (Nat.ne_of_lt hover)] at hread
    exact accept_of_readHead_error hread
  · rw [hanswer]
    exact outcome_dig hproxy hnetwork

/-- A proxy that grants a tunnel, with the first byte of the other end behind. -/
def greeting : Reply := .closing (utf8 "HTTP/1.1 200 OK\r\n\r\nX".toList)

/-- A proxy that sends letters and no line end. -/
def babble : Reply := .endless fun _ => 0x41

theorem not_headEndsAt_babble (n : ℕ) : ¬ HeadEndsAt babble n := by
  intro h
  have hmem : (0x0d : UInt8) ∈ (List.range n).map fun _ => 0x41 := h.ends.subset (by decide)
  obtain ⟨i, -, hi⟩ := List.mem_map.1 hmem
  exact absurd hi (by decide)

/-- The byte behind a head is left to the tunnel, and letters without end are
read as far as there is room. -/
theorem greeting_is_left_to_tunnel :
    HeadEndsAt greeting 19 ∧ accept greeting = .ok (.closing [0x58]) ∧
    readHead maxHead [] babble =
      (.error (.tunnelRefused "response head too large"), babble.drop maxHead) := by
  have hends : HeadEndsAt greeting 19 := ⟨by decide, by decide⟩
  obtain ⟨-, -, line, hline, hgrants, -⟩ :=
    (tunnel_begins_behind_head greeting).1 19 (by decide) hends
  have hhead : greeting.take 19 = utf8 "HTTP/1.1 200 OK\r\n\r\n".toList := by decide
  rw [hhead, lossy_utf8] at hline
  have hwords : (words line)[1]? = some ['2', '0', '0'] := by
    rw [← firstLine_eq_iff.2 hline]
    decide
  have hlength : (babble.take maxHead).length = maxHead := by simp [babble, Reply.take]
  exact ⟨hends, hgrants (getElem?_words_one_iff.1 hwords),
    ((tunnel_begins_behind_head babble).2.1 (fun n _ => not_headEndsAt_babble n) hlength).1⟩

end Tunnel

end StreamFinder.Socket
