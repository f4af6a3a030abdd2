import Meterboard.Proofs.Cbor.Record
import Meterboard.Proofs.Codec
import Meterboard.Store.Transport

/-!
# One request, one post, one outcome

Sending a request posts once and comes out in one of four ways.  What is posted is on one line and
is read back as the request, also when the codec has broken the text into lines on its way: the
characters of base64 hold no line end, so taking line ends out of the broken text leaves exactly
what the codec was given.

* `Broken`, `Codec.Breaks` — line ends were put into a text; `broken_join`, `breaks_wrapped` —
  pieces joined by line ends are one case of it.
* `recording`, `sendRecorded` — an exchange that keeps what was posted.
* `Outcome` — the four ways in which a call ends, each with the condition under which it does.
* `requests_sent` — all of it, for the three types of requests.
-/

namespace Meterboard

open Wire (Value Kind Fields)

namespace Transport

/-! ## Broken lines -/

/-- Line ends were put into a text: anywhere, any number, of either sort. -/
inductive Broken : List Char → List Char → Prop
  | nil : Broken [] []
  | keep (c : Char) {s t : List Char} (h : Broken s t) : Broken (c :: s) (c :: t)
  | lineEnd {c : Char} (hc : isLineEnd c = true) {s t : List Char} (h : Broken s t) :
      Broken s (c :: t)

lemma Broken.refl : ∀ s : List Char, Broken s s
  | [] => .nil
  | c :: s => .keep c (.refl s)

lemma Broken.append {s t s' t' : List Char} (h : Broken s t) (h' : Broken s' t') :
    Broken (s ++ s') (t ++ t') := by
  induction h with
  | nil => exact h'
  | keep c _ ih => exact .keep c ih
  | lineEnd hc _ ih => exact .lineEnd hc ih

/-- Pieces of a text joined by line ends are the text with line ends put in. -/
lemma broken_join : ∀ pieces : List (List Char), Broken pieces.flatten (['\n'].intercalate pieces)
  | [] => .nil
  | [piece] => by simpa using Broken.refl piece
  | piece :: next :: rest => by
      have hrest := broken_join (next :: rest)
      simpa [List.intercalate] using (Broken.refl piece).append (.lineEnd rfl hrest)

/-- Without its line ends a broken text is the text it was. -/
lemma filter_of_broken {s t : List Char} (h : Broken s t)
    (hs : ∀ c ∈ s, isLineEnd c = false) : t.filter (!isLineEnd ·) = s := by
  induction h with
  | nil => rfl
  | keep c _ ih =>
      obtain ⟨hc, hs⟩ := List.forall_mem_cons.1 hs
      simp [hc, ih hs]
  | lineEnd hc _ ih => simp [hc, ih hs]

end Transport

/-- What the codec sends for a text is the text with line ends put in. -/
def Codec.Breaks (codec : Codec) (s : String) : Prop :=
  Transport.Broken s.toList (codec.layout s).toList

namespace Codec

lemma flatten_chunked {n : Nat} (hn : 0 < n) : ∀ {fuel : Nat} {s : List Char}, s.length ≤ fuel →
    (chunked n fuel s).flatten = s
  | 0, s, h => by
      obtain rfl := List.length_eq_zero_iff.1 (Nat.le_zero.1 h)
      rfl
  | _ + 1, [], _ => rfl
  | fuel + 1, c :: s, h => by
      have hshort : ((c :: s).drop n).length ≤ fuel := by
        rw [List.length_drop]
        omega
      rw [chunked, List.flatten_cons, flatten_chunked hn hshort, List.take_append_drop]
      exact List.cons_ne_nil c s

/-- The codec that breaks lines after so many characters is one that breaks lines. -/
lemma breaks_wrapped (n : Nat) (s : String) : (wrapped n).Breaks s := by
  have hpieces : (chunked (max n 1) s.length s.toList).flatten = s.toList :=
    flatten_chunked (Nat.lt_of_lt_of_le Nat.zero_lt_one (Nat.le_max_right n 1)) s.length_toList.le
  have hends : Transport.Broken [] ['\r', '\n'] := .lineEnd rfl (.lineEnd rfl .nil)
  have hjoin := (Transport.broken_join (chunked (max n 1) s.length s.toList)).append hends
  rw [hpieces, List.append_nil] at hjoin
  simpa only [Breaks, wrapped, String.toList_ofList] using hjoin

end Codec

namespace Transport

lemma isBlank_of_isLineEnd {c : Char} (h : isLineEnd c = true) : Text.isBlank c = true := by
  simp only [isLineEnd, Bool.or_eq_true, decide_eq_true_eq] at h
  rcases h with rfl | rfl <;> decide

/-- The text of a message is on one line. -/
lemma not_isLineEnd_of_mem {α : Type} [Message α] {m : α} {c : Char}
    (hc : c ∈ (encodeMessage m).toList) : isLineEnd c = false := by
  have hblank := (Base64.plain_of_mem_encode hc).not_isBlank
  cases hend : isLineEnd c with
  | false => rfl
  | true => rw [isBlank_of_isLineEnd hend] at hblank; cases hblank

/-- A text that was broken into lines is put on one line again. -/
lemma onOneLine_of_broken (e : Endpoint) {s body : String}
    (hs : ∀ c ∈ s.toList, isLineEnd c = false) (h : Broken s.toList body.toList) :
    (onOneLine e body).1 = s := by
  have hfilter := filter_of_broken h hs
  rw [onOneLine]
  split
  · rw [hfilter, String.ofList_toList]
  · rename_i hnone
    have hself : body.toList.filter (!isLineEnd ·) = body.toList :=
      List.filter_eq_self.2 fun c hc => by
        simpa using fun hend => hnone (List.any_eq_true.2 ⟨c, hc, hend⟩)
    rw [hself] at hfilter
    exact String.toList_inj.1 hfilter

lemma not_isLineEnd_of_mem_onOneLine {e : Endpoint} {body : String} {c : Char}
    (hc : c ∈ (onOneLine e body).1.toList) : isLineEnd c = false := by
  rw [onOneLine] at hc
  split at hc
  · rw [String.toList_ofList] at hc
    simpa using (List.mem_filter.1 hc).2
  · rename_i hnone
    simpa using fun hend => hnone (List.any_eq_true.2 ⟨c, hc, hend⟩)

/-- A text on one line is left as it is, and nobody is warned. -/
lemma onOneLine_eq_self (e : Endpoint) {body : String}
    (h : ∀ c ∈ body.toList, isLineEnd c = false) : onOneLine e body = (body, []) := by
  rw [onOneLine, if_neg]
  intro hany
  obtain ⟨c, hc, hend⟩ := List.any_eq_true.1 hany
  rw [h c hc] at hend
  cases hend

/-! ## What is posted -/

/-- An exchange that comes out as `answer` and keeps what it is given to post. -/
def recording (answer : Except ExchangeError String) (p : Post) :
    StateM (List Post) (Except ExchangeError String) := do
  modify (· ++ [p])
  return answer

section

variable {α β : Type} [Response β] [Request α β]

/-- What comes of sending a request, and what was posted for it. -/
def sendRecorded (codec : Codec) (answer : Except ExchangeError String) (r : α) :
    Sent β × List Post :=
  Id.run ((send codec (recording answer) r).run [])

/-- Whatever comes of it, a request is posted once, and its outcome is that of the answer. -/
lemma sendRecorded_eq (codec : Codec) (answer : Except ExchangeError String) (r : α) :
    sendRecorded codec answer r =
      (⟨(receive β (Request.endpoint α) answer).result,
        (post codec r).2 ++ (receive β (Request.endpoint α) answer).log⟩, [(post codec r).1]) :=
  rfl

lemma post_standard (r : α) :
    post Codec.standard r = (⟨Request.endpoint α, "text/base64", encodeMessage r⟩, []) := by
  have hbody : onOneLine (Request.endpoint α) (Codec.standard.encode r) = (encodeMessage r, []) :=
    onOneLine_eq_self _ fun _ => not_isLineEnd_of_mem
  rw [post, hbody]
  rfl

end

/-! ## How a call ends -/

/-- The text stands for a map without an entry of this name. -/
def Lacks (name text : String) : Prop :=
  ∃ bs entries rest, Base64.decode (Text.trim text) = .ok bs ∧
    Cbor.item? bs = some (.map entries, rest) ∧ ∀ e ∈ entries, e.1 ≠ .text name

/-- A response begins with whether the store did what it was asked, which is no unless it is there
and says yes. -/
class LawfulResponse (β : Type) [Response β] : Prop extends LawfulMessage β where
  kind_eq : ∃ rest, Message.kind β = .record (.cons "success" .defaulted .flag rest)
  accepted_eq {v : Value} {resp : β} (h : Message.ofValue? v = some resp) :
    v.field? "success" = some (.flag (Response.accepted resp))

/-- A reader that begins with a truth value found it in the record. -/
lemma field?_of_required?_flag {α : Type} {v : Value} {name : String} {f : Bool → Option α} {a : α}
    (h : (v.required? Value.asFlag? name).bind f = some a) :
    ∃ b, v.field? name = some (.flag b) ∧ f b = some a := by
  obtain ⟨b, hb, hf⟩ := Option.bind_eq_some_iff.1 h
  obtain ⟨w, hw, hflag⟩ := Option.bind_eq_some_iff.1 hb
  cases w <;> cases hflag
  exact ⟨b, hw, hf⟩

instance : LawfulResponse AddResponse where
  kind_eq := ⟨_, rfl⟩
  accepted_eq h := by
    obtain ⟨accepted, hfield, h⟩ := field?_of_required?_flag h
    obtain ⟨reason, -, h⟩ := Option.bind_eq_some_iff.1 h
    cases h
    exact hfield

instance : LawfulResponse GetResponse where
  kind_eq := ⟨_, rfl⟩
  accepted_eq h := by
    obtain ⟨accepted, hfield, h⟩ := field?_of_required?_flag h
    obtain ⟨reason, -, h⟩ := Option.bind_eq_some_iff.1 h
    obtain ⟨streams, -, h⟩ := Option.bind_eq_some_iff.1 h
    cases h
    exact hfield

instance : LawfulResponse ListResponse where
  kind_eq := ⟨_, rfl⟩
  accepted_eq h := by
    obtain ⟨accepted, hfield, h⟩ := field?_of_required?_flag h
    obtain ⟨reason, -, h⟩ := Option.bind_eq_some_iff.1 h
    obtain ⟨streams, -, h⟩ := Option.bind_eq_some_iff.1 h
    cases h
    exact hfield

section

variable {β : Type} [Response β] {e : Endpoint} {text : String} {resp : β}

/-- What does not say that the request was accepted says that it was refused. -/
lemma not_accepted_of_lacks [LawfulResponse β] (hlacks : Lacks "success" text)
    (hresp : decodeMessage β text = .ok resp) : Response.accepted resp = false := by
  obtain ⟨bs, entries, rest, hbytes, hitem, hlacks⟩ := hlacks
  rw [decodeMessage, hbytes] at hresp
  dsimp only at hresp
  split at hresp
  · rename_i m hm
    cases hresp
    obtain ⟨v, hv, hm⟩ := Option.bind_eq_some_iff.1 hm
    rw [Cbor.read?, hitem] at hv
    obtain ⟨fields, hkind⟩ := LawfulResponse.kind_eq (β := β)
    have htidy := LawfulMessage.tidy (α := β)
    rw [hkind] at hv htidy
    have hdefault := Cbor.field?_of_absent (Kind.tidy_record htidy).1 hlacks hv
    rw [LawfulResponse.accepted_eq hm] at hdefault
    simpa [Kind.empty] using hdefault
  · cases hresp

lemma receive_undecoded {cause : CodecError} (h : decodeMessage β text = .error cause) :
    receive β e (.ok text) = ⟨.error (.codec e cause), []⟩ := by
  rw [receive, h]

lemma receive_accepted (h : decodeMessage β text = .ok resp)
    (hacc : Response.accepted resp = true) : receive β e (.ok text) = ⟨.ok resp, []⟩ := by
  rw [receive, h]
  exact if_pos hacc

lemma receive_refused (h : decodeMessage β text = .ok resp)
    (hacc : Response.accepted resp = false) :
    receive β e (.ok text) =
      ⟨.error (.rejected e ((Response.reason? resp).getD noReason)),
        [⟨.debug, e.path ++ " rejected: " ++ (Response.reason? resp).getD noReason⟩]⟩ := by
  rw [receive, h]
  exact if_neg (Bool.eq_false_iff.1 hacc)

/-- Of what comes back only a failure of the exchange is worth a warning. -/
lemma warn_of_receive {answer : Except ExchangeError String} {entry : Log.Entry}
    (hmem : entry ∈ (receive β e answer).log) (hwarn : entry.level = .warn) :
    ∃ cause, answer = .error cause ∧ entry = ⟨.warn, (StoreError.transport e cause).message⟩ := by
  cases answer with
  | error cause => exact ⟨cause, rfl, List.mem_singleton.1 hmem⟩
  | ok text =>
      exfalso
      cases hread : decodeMessage β text with
      | error cause =>
          rw [receive_undecoded hread] at hmem
          cases hmem
      | ok resp =>
          cases hacc : Response.accepted resp with
          | true =>
              rw [receive_accepted hread hacc] at hmem
              cases hmem
          | false =>
              rw [receive_refused hread hacc] at hmem
              rw [List.mem_singleton.1 hmem] at hwarn
              cases hwarn

/-- The four ways in which a call to an endpoint ends, and when it ends in each.  The result is that
of the exchange and of what its answer says. -/
structure Outcome (e : Endpoint) (answer : Except ExchangeError String)
    (result : Except StoreError β) : Prop where
  ok : ∀ resp, result = .ok resp ↔
    ∃ text, answer = .ok text ∧ decodeMessage β text = .ok resp ∧ Response.accepted resp = true
  rejected : ∀ reason, result = .error (.rejected e reason) ↔
    ∃ text resp, answer = .ok text ∧ decodeMessage β text = .ok resp ∧
      Response.accepted resp = false ∧ (Response.reason? resp).getD noReason = reason
  codec : ∀ cause, result = .error (.codec e cause) ↔
    ∃ text, answer = .ok text ∧ decodeMessage β text = .error cause
  transport : ∀ cause, result = .error (.transport e cause) ↔ answer = .error cause
  endpoint : ∀ err, result = .error err → err.endpoint = e

/-- **What comes back is sorted into its outcome.**  The cases are those in which `receive` ends;
each is one of the four and none of the others. -/
theorem outcome_receive (e : Endpoint) (answer : Except ExchangeError String) :
    Outcome e answer (receive β e answer).result := by
  cases answer with
  | error cause =>
      constructor <;> simp [receive, StoreError.endpoint]
  | ok text =>
      cases hread : decodeMessage β text with
      | error cause =>
          rw [receive_undecoded hread]
          constructor <;> simp [hread, StoreError.endpoint]
      | ok resp =>
          cases hacc : Response.accepted resp with
          | true =>
              rw [receive_accepted hread hacc]
              constructor <;> simp [hread, hacc, StoreError.endpoint]
          | false =>
              rw [receive_refused hread hacc]
              constructor <;> simp [hread, hacc, StoreError.endpoint]

end

/-! ## One request -/

/-- What sending requests of a type to an endpoint comes to.  A codec that breaks lines is seen in
its content type and in a warning only: the body is the text of the request either way, and is read
back when the lengths in it can be written. -/
structure Sends (e : Endpoint) (α : Type) {β : Type} [Response β] [Request α β] : Prop where
  post : ∀ (codec : Codec) (answer : Except ExchangeError String) (r : α),
    ∃ body, (sendRecorded codec answer r).2 = [⟨e, codec.contentType, body⟩] ∧
      (∀ c ∈ body.toList, c ≠ '\n' ∧ c ≠ '\r') ∧
        ((Message.toValue r).Sized → codec.Breaks (encodeMessage r) →
          decodeMessage α body = .ok r)
  standard : ∀ (answer : Except ExchangeError String) (r : α),
    (sendRecorded Codec.standard answer r).2 = [⟨e, "text/base64", encodeMessage r⟩] ∧
      ((Message.toValue r).Sized → decodeMessage α (encodeMessage r) = .ok r) ∧
        ∀ entry ∈ (sendRecorded Codec.standard answer r).1.log, entry.level = .warn →
          ∃ cause, answer = .error cause ∧
            entry = ⟨.warn, (StoreError.transport e cause).message⟩
  outcome : ∀ (codec : Codec) (answer : Except ExchangeError String) (r : α),
    Outcome e answer (sendRecorded codec answer r).1.result
  lacking : ∀ (codec : Codec) (text : String) (r : α) (resp : β), Lacks "success" text →
    decodeMessage β text = .ok resp → (sendRecorded codec (.ok text) r).1.result =
      .error (.rejected e ((Response.reason? resp).getD noReason))

lemma sends (α : Type) {β : Type} [Response β] [Request α β] [LawfulMessage α]
    [LawfulResponse β] : Sends (Request.endpoint α) α where
  post codec answer r := by
    refine ⟨(onOneLine (Request.endpoint α) (codec.encode r)).1, rfl, fun c hc => ?_,
      fun hr hbreaks => ?_⟩
    · have hend := not_isLineEnd_of_mem_onOneLine hc
      simpa [isLineEnd] using hend
    · have hbody := onOneLine_of_broken (Request.endpoint α) (fun _ => not_isLineEnd_of_mem) hbreaks
      rw [Codec.encode, hbody]
      exact decodeMessage_encode hr
  standard answer r := by
    rw [sendRecorded_eq, post_standard]
    exact ⟨rfl, decodeMessage_encode, fun _ => warn_of_receive⟩
  outcome codec answer r := outcome_receive _ answer
  lacking codec text r resp hlacks hresp := by
    rw [sendRecorded_eq, receive_refused hresp (not_accepted_of_lacks hlacks hresp)]

/-- **A request is posted once and has one outcome**, whichever of the three it is. -/
theorem requests_sent : Sends .add AddRequest ∧ Sends .get GetRequest ∧ Sends .list ListRequest :=
  ⟨sends AddRequest, sends GetRequest, sends ListRequest⟩

/-- The body in lines of four characters is posted as one line, and the answer, an empty map, is a
refusal without a reason. -/
theorem requests_sent_wrapped :
    (∃ body, (sendRecorded (Codec.wrapped 4) (.ok "oA==") (ListRequest.ofPattern "/net/*")).2 =
        [⟨.list, "text/wrapped", body⟩] ∧
      decodeMessage ListRequest body = .ok (ListRequest.ofPattern "/net/*")) ∧
    (sendRecorded (Codec.wrapped 4) (.ok "oA==") (ListRequest.ofPattern "/net/*")).1.result =
      .error (.rejected .list noReason) := by
  obtain ⟨body, hpost, -, hread⟩ :=
    requests_sent.2.2.post (Codec.wrapped 4) (.ok "oA==") (ListRequest.ofPattern "/net/*")
  have hlacks : Lacks "success" "oA==" := ⟨[0xa0], [], [], rfl, rfl, by simp⟩
  have hread := hread (by decide) (Codec.breaks_wrapped 4 _)
  exact ⟨⟨body, hpost, hread⟩,
    requests_sent.2.2.lacking _ _ (ListRequest.ofPattern "/net/*") ⟨false, none, []⟩ hlacks rfl⟩

end Transport

end Meterboard
