import LocalizedMail.Smtp.Client
import Mathlib.Data.List.TakeWhile

/-!
# Dialogues with a mail server

What a library promises of a dialogue is a property of the tree: it says what may come after each
answer, whatever server gives it.  What a dialogue comes to with one server is the path that its
answers take through the tree, and this file says what such a path looks like.

Before a mail is announced, the client sets up a connection.  It may give up on its own then, and it
may find that a connection is no good any more and open another one: such refusals do not count.
From the sender to the message every move has to be accepted.  The first refusal that counts, or the
first answer that does not come, ends the dialogue: the client only takes leave after it.

Main results:
  * `Closing`, `Handing`, `Opening`: the parts of an orderly dialogue, last part first;
  * `Opening.run`: an orderly dialogue is given up, breaks off, or hands the mail over;
  * `Opening.classified`: which of the three it is, from the answers alone.
-/

namespace LocalizedMail.Smtp

/-! ## §1. Moves and answers -/

/-- Whether a reply lets the client go on. -/
def Reply.isPositive (r : Reply) : Bool := 200 ≤ r.code && r.code < 400

/-- Whether a reply refuses for good: it is one of the five hundreds. -/
def Reply.isPermanent (r : Reply) : Bool := 500 ≤ r.code && r.code < 600

/-- Whether a move is part of a mail, and not of the connection. -/
def Move.isOfMail : Move → Bool
  | mail _ _ | rcpt _ | data | message _ => true
  | connect | setUp _ | probe | quit => false

/-- The moves of a mail: its sender, every recipient, and the message. -/
def Route.moves (r : Route) (text : String) (parameters : List String) : List Move :=
  .mail r.sender parameters :: r.recipients.map .rcpt ++ [.data, .message text]

theorem Route.isOfMail_of_mem_moves {r : Route} {text : String} {parameters : List String} :
    ∀ m ∈ r.moves text parameters, m.isOfMail = true := by
  intro m hm
  simp only [moves, List.cons_append, List.mem_cons, List.mem_append, List.mem_map,
    List.not_mem_nil, or_false] at hm
  rcases hm with rfl | ⟨recipient, -, rfl⟩ | rfl | rfl <;> rfl

theorem Route.mail_mem_moves (r : Route) (text : String) (parameters : List String) :
    Move.mail r.sender parameters ∈ r.moves text parameters := List.mem_cons_self

/-- Whether it matters how a move is answered. -/
def Move.counts : Move → Bool
  | probe | quit => false
  | _ => true

theorem Move.counts_of_isOfMail {m : Move} (h : m.isOfMail = true) : m.counts = true := by
  cases m <;> first | rfl | cases h

/-- Whether an answer has come and is positive. -/
def accepts (answer : Option Reply) : Bool := answer.any Reply.isPositive

/-- Whether an answer has come and refuses for good. -/
def refusesForGood (answer : Option Reply) : Bool := answer.any Reply.isPermanent

theorem exists_reply_of_accepts {answer : Option Reply} (h : accepts answer = true) :
    ∃ reply, answer = some reply ∧ reply.isPositive = true := by
  cases answer with
  | none => cases h
  | some reply => exact ⟨reply, rfl, h⟩

theorem refusesForGood_iff {answer : Option Reply} :
    refusesForGood answer = true ↔ ∃ reply, answer = some reply ∧ reply.isPermanent = true := by
  cases answer with
  | none => simp [refusesForGood]
  | some reply => simp [refusesForGood]

/-- Whether a dialogue may go on after an exchange. -/
def Exchange.isGood (x : Exchange) : Bool := !x.1.counts || accepts x.2

/-! ## §2. Orderly dialogues -/

section orderly

variable {σ : Type}

/-- A dialogue in which only leave is taken, and which fails, for good or not. -/
inductive Closing (permanent : Bool) : Dialogue σ → Prop where
  | ended {failure : Failure} {state : σ} (flag : failure.isPermanent = permanent) :
      Closing permanent (.ended (.error failure) state)
  | quit {next : Option Reply → Dialogue σ} (after : ∀ answer, Closing permanent (next answer)) :
      Closing permanent (.say .quit next)

/-- A dialogue in which moves are made one after the other, as long as each is accepted.  The result
is the last reply; a failure is permanent if the refusal was one for good. -/
inductive Handing : Reply → List Move → Dialogue σ → Prop where
  | ended {last : Reply} {state : σ} : Handing last [] (.ended (.ok last) state)
  | say {last : Reply} {move : Move} {rest : List Move} {next : Option Reply → Dialogue σ}
      (accepted : ∀ reply, reply.isPositive = true → Handing reply rest (next (some reply)))
      (refused : ∀ answer, accepts answer = false →
        Closing (refusesForGood answer) (next answer)) :
      Handing last (move :: rest) (.say move next)

/-- A dialogue that sets up a connection and then makes the moves of a mail, which may have
parameters.  The client may give up before it begins with the mail. -/
inductive Opening (route : Route) (text : String) : Dialogue σ → Prop where
  | gaveUp {failure : Failure} {state : σ} (flag : failure.isPermanent = false) :
      Opening route text (.ended (.error failure) state)
  | free {move : Move} {next : Option Reply → Dialogue σ} (own : move.isOfMail = false)
      (free : move.counts = false) (after : ∀ answer, Opening route text (next answer)) :
      Opening route text (.say move next)
  | setUp {move : Move} {next : Option Reply → Dialogue σ} (own : move.isOfMail = false)
      (counts : move.counts = true)
      (accepted : ∀ reply, reply.isPositive = true → Opening route text (next (some reply)))
      (refused : ∀ answer, accepts answer = false →
        Closing (refusesForGood answer) (next answer)) :
      Opening route text (.say move next)
  | begun {d : Dialogue σ} {last : Reply} {parameters : List String}
      (handing : Handing last (route.moves text parameters) d) : Opening route text d

end orderly

/-! ## §3. What was said -/

/-- What was said from the first move on that was not accepted. -/
def unaccepted (talk : List Exchange) : List Exchange := talk.dropWhile Exchange.isGood

/-- The reply that refused the first move that was not accepted. -/
def refusal? (talk : List Exchange) : Option Reply := (unaccepted talk).head?.bind Prod.snd

/-- All moves were accepted, and the mail was begun. -/
def Accepted (talk : List Exchange) : Prop :=
  (∀ x ∈ talk, Exchange.isGood x = true) ∧ ∃ x ∈ talk, x.1.isOfMail = true

instance (talk : List Exchange) : Decidable (Accepted talk) :=
  inferInstanceAs (Decidable (_ ∧ ∃ x ∈ talk, _))

/-- A dialogue broke off: a move was not accepted, and after it leave was taken. -/
structure BrokeOff (talk : List Exchange) (permanent : Bool) : Prop where
  exists_split : ∃ before x after, talk = before ++ x :: after ∧
    (∀ y ∈ before, Exchange.isGood y = true) ∧ Exchange.isGood x = false ∧
    (∀ y ∈ after, y.1 = .quit) ∧ refusesForGood x.2 = permanent

section talk

variable {talk : List Exchange} {x : Exchange} {permanent : Bool}

theorem isGood_of_free (h : x.1.counts = false) : Exchange.isGood x = true := by
  unfold Exchange.isGood
  rw [h]
  rfl

theorem isGood_eq_accepts (h : x.1.counts = true) : Exchange.isGood x = accepts x.2 := by
  unfold Exchange.isGood
  rw [h]
  rfl

theorem BrokeOff.cons (h : BrokeOff talk permanent) (hx : Exchange.isGood x = true) :
    BrokeOff (x :: talk) permanent := by
  obtain ⟨before, y, after, htalk, hbefore, hrest⟩ := h.exists_split
  exact ⟨x :: before, y, after, by rw [htalk, List.cons_append],
    List.forall_mem_cons.mpr ⟨hx, hbefore⟩, hrest⟩

/-- Where all moves are accepted, nothing is left over. -/
theorem unaccepted_of_good (h : ∀ x ∈ talk, Exchange.isGood x = true) : unaccepted talk = [] :=
  List.dropWhile_eq_nil_iff.mpr h

theorem tail_unaccepted_of_good (h : ∀ x ∈ talk, Exchange.isGood x = true) :
    ∀ x ∈ (unaccepted talk).tail, x.1 = .quit := by
  rw [unaccepted_of_good h]
  exact nofun

/-- A dialogue that broke off took leave after a refusal, and did not hand anything over. -/
theorem BrokeOff.unaccepted (h : BrokeOff talk permanent) :
    (∃ x after, unaccepted talk = x :: after ∧ refusesForGood x.2 = permanent ∧
      accepts x.2 = false ∧ ∀ y ∈ after, y.1 = .quit) ∧ ¬ Accepted talk := by
  obtain ⟨before, x, after, rfl, hbefore, hx, hafter, hflag⟩ := h.exists_split
  have hrest : Smtp.unaccepted (before ++ x :: after) = x :: after := by
    unfold Smtp.unaccepted
    rw [List.dropWhile_append_of_pos hbefore, List.dropWhile_cons_of_neg (by simp [hx])]
  have hanswer : accepts x.2 = false := by
    unfold Exchange.isGood at hx
    exact (Bool.or_eq_false_iff.mp hx).2
  refine ⟨⟨x, after, hrest, hflag, hanswer, hafter⟩, fun haccepted => ?_⟩
  rw [haccepted.1 x (by simp)] at hx
  cases hx

end talk

/-! ## §4. The course of a dialogue -/

section run

variable {σ : Type} {d : Dialogue σ} {route : Route} {text : String}

/-- The moves of a mail in what was said. -/
def mailMoves (talk : List Exchange) : List Move := (talk.map Prod.fst).filter Move.isOfMail

theorem mailMoves_cons_of_own {x : Exchange} (h : x.1.isOfMail = false) (talk : List Exchange) :
    mailMoves (x :: talk) = mailMoves talk := by
  unfold mailMoves
  rw [List.map_cons, List.filter_cons_of_neg (by simp [h])]

theorem mailMoves_cons_of_mail {x : Exchange} (h : x.1.isOfMail = true) (talk : List Exchange) :
    mailMoves (x :: talk) = x.1 :: mailMoves talk := by
  unfold mailMoves
  rw [List.map_cons, List.filter_cons_of_pos h]

/-- Taking leave makes no move of a mail. -/
theorem mailMoves_of_quit {talk : List Exchange} (h : ∀ x ∈ talk, x.1 = .quit) :
    mailMoves talk = [] := by
  unfold mailMoves
  rw [List.filter_eq_nil_iff]
  intro m hm
  obtain ⟨x, hx, rfl⟩ := List.mem_map.mp hm
  rw [h x hx]
  exact Bool.false_ne_true

/-- Only leave is taken, and the failure is the one that was announced. -/
theorem Closing.run {permanent : Bool} (h : Closing permanent d) (server : Server)
    (past : List Move) :
    (∃ failure, (d.run server past).result = .error failure ∧ failure.isPermanent = permanent) ∧
      ∀ x ∈ (d.run server past).talk, x.1 = .quit := by
  -- on the dialogue; the server is asked anew at each step, so the past grows
  induction h generalizing past with
  | ended flag => exact ⟨⟨_, rfl, flag⟩, nofun⟩
  | quit _ ih =>
    obtain ⟨hresult, htalk⟩ := ih (server (past ++ [.quit])) (past ++ [.quit])
    exact ⟨hresult, List.forall_mem_cons.mpr ⟨rfl, htalk⟩⟩

/-- A refusal that counts is the end of it. -/
theorem Closing.brokeOff {move : Move} {answer : Option Reply}
    (h : Closing (refusesForGood answer) d) (hcounts : move.counts = true)
    (hanswer : accepts answer = false) (server : Server) (past : List Move) :
    (∃ failure, (d.run server past).result = .error failure ∧
      BrokeOff ((move, answer) :: (d.run server past).talk) failure.isPermanent) ∧
      mailMoves (d.run server past).talk = [] := by
  obtain ⟨⟨failure, hresult, hflag⟩, hquit⟩ := h.run server past
  refine ⟨⟨failure, hresult, [], _, _, rfl, nofun, ?_, hquit, hflag.symm⟩, mailMoves_of_quit hquit⟩
  rw [isGood_eq_accepts hcounts]
  exact hanswer

/-- What a dialogue can come to: it is given up before the mail is begun, it breaks off, or the mail
is handed over. -/
inductive Course (route : Route) (text : String) (r : Ran σ) : Prop where
  | gaveUp (failure : Failure) (result : r.result = .error failure)
      (flag : failure.isPermanent = false) (good : ∀ x ∈ r.talk, Exchange.isGood x = true)
      (own : mailMoves r.talk = []) : Course route text r
  | brokeOff (failure : Failure) (result : r.result = .error failure)
      (broke : BrokeOff r.talk failure.isPermanent) (parameters : List String)
      (announced : mailMoves r.talk <+: route.moves text parameters) : Course route text r
  | handedOver (reply : Reply) (result : r.result = .ok reply) (opening : List Move)
      (parameters : List String) (moves : r.talk.map Prod.fst = opening ++ route.moves text parameters)
      (own : ∀ m ∈ opening, m.isOfMail = false)
      (good : ∀ x ∈ r.talk, Exchange.isGood x = true)
      (last : ∃ x, r.talk.getLast? = some x ∧ x.2 = some reply) : Course route text r

/-- **Handing over**: all moves are made and accepted, and the result is the last reply; or the
dialogue breaks off after some of them. -/
theorem Handing.run {last : Reply} {moves : List Move} (h : Handing last moves d)
    (hmail : ∀ m ∈ moves, m.isOfMail = true) (server : Server) (past : List Move) :
    (∃ reply, (d.run server past).result = .ok reply ∧
      (d.run server past).talk.map Prod.fst = moves ∧
      (∀ x ∈ (d.run server past).talk, Exchange.isGood x = true) ∧
      (d.run server past).talk.getLast?.elim (some last) Prod.snd = some reply) ∨
    ∃ failure, (d.run server past).result = .error failure ∧
      BrokeOff (d.run server past).talk failure.isPermanent ∧
      mailMoves (d.run server past).talk <+: moves := by
  -- on the moves that are left; `last` is the reply to the move before them
  induction h generalizing past with
  | ended => exact .inl ⟨_, rfl, rfl, nofun, rfl⟩
  | @say last move rest next _ refused ih =>
    obtain ⟨hmove, hrest⟩ := List.forall_mem_cons.mp hmail
    have hcounts := Move.counts_of_isOfMail hmove
    unfold Dialogue.run
    dsimp only
    generalize hanswer : server (past ++ [move]) = answer
    cases haccepts : accepts answer with
    | false =>
      obtain ⟨⟨failure, hresult, hbroke⟩, hquit⟩ :=
        (refused answer haccepts).brokeOff hcounts haccepts server (past ++ [move])
      refine .inr ⟨failure, hresult, hbroke, ?_⟩
      rw [mailMoves_cons_of_mail hmove, hquit]
      exact ⟨rest, rfl⟩
    | true =>
      obtain ⟨reply, rfl, hpositive⟩ := exists_reply_of_accepts haccepts
      have hgood : Exchange.isGood (move, some reply) = true :=
        (isGood_eq_accepts hcounts).trans haccepts
      rcases ih reply hpositive hrest (past ++ [move]) with
        ⟨final, hresult, hmoves, hall, hlast⟩ | ⟨failure, hresult, hbroke, hannounced⟩
      · refine .inl ⟨final, hresult, by rw [List.map_cons, hmoves],
          List.forall_mem_cons.mpr ⟨hgood, hall⟩, ?_⟩
        rw [List.getLast?_cons, ← hlast]
        cases List.getLast? _ <;> rfl
      · refine .inr ⟨failure, hresult, hbroke.cons hgood, ?_⟩
        rw [mailMoves_cons_of_mail hmove]
        exact (List.prefix_cons_inj move).mpr hannounced

/-- An exchange that only concerns the connection, and lets it go on, can come before. -/
theorem Course.cons {r : Ran σ} {x : Exchange} (h : Course route text r) (hown : x.1.isOfMail = false)
    (hgood : Exchange.isGood x = true) : Course route text ⟨r.result, r.state, x :: r.talk⟩ := by
  cases h with
  | gaveUp failure result flag good own =>
    exact .gaveUp failure result flag (List.forall_mem_cons.mpr ⟨hgood, good⟩)
      ((mailMoves_cons_of_own hown _).trans own)
  | brokeOff failure result broke parameters announced =>
    refine .brokeOff failure result (broke.cons hgood) parameters ?_
    rw [mailMoves_cons_of_own hown]
    exact announced
  | handedOver reply result opening parameters moves own good last =>
    obtain ⟨y, hy, hreply⟩ := last
    refine .handedOver reply result (x.1 :: opening) parameters ?_
      (List.forall_mem_cons.mpr ⟨hown, own⟩) (List.forall_mem_cons.mpr ⟨hgood, good⟩)
      ⟨y, ?_, hreply⟩
    · rw [List.map_cons, moves, List.cons_append]
    · rw [List.getLast?_cons, hy]
      rfl

/-- **An orderly dialogue is given up, breaks off, or hands the mail over.** -/
theorem Opening.run (h : Opening route text d) (server : Server) (past : List Move) :
    Course route text (d.run server past) := by
  -- on the opening: each answer leads to the rest of it, or to the last parts of the dialogue
  induction h generalizing past with
  | gaveUp flag => exact .gaveUp _ rfl flag nofun rfl
  | @free move next own free _ ih =>
    exact (ih (server (past ++ [move])) (past ++ [move])).cons own (isGood_of_free free)
  | @setUp move next own counts _ refused ih =>
    cases haccepts : accepts (server (past ++ [move])) with
    | false =>
      obtain ⟨⟨failure, hresult, hbroke⟩, hquit⟩ :=
        (refused _ haccepts).brokeOff counts haccepts server (past ++ [move])
      refine .brokeOff failure hresult hbroke [] ?_
      rw [Dialogue.run]
      dsimp only
      rw [mailMoves_cons_of_own own, hquit]
      exact List.nil_prefix
    | true =>
      obtain ⟨reply, hreply, hpositive⟩ := exists_reply_of_accepts haccepts
      have hrest := ih reply hpositive (past ++ [move])
      rw [← hreply] at hrest
      exact hrest.cons own ((isGood_eq_accepts counts).trans haccepts)
  | @begun d last parameters handing =>
    rcases handing.run Route.isOfMail_of_mem_moves server past with
      ⟨reply, hresult, hmoves, hall, hlast⟩ | ⟨failure, hresult, hbroke, hannounced⟩
    · refine .handedOver reply hresult [] parameters hmoves nofun hall ?_
      -- a mail has moves, so there is a last one, and its reply is the result
      generalize (d.run server past).talk = talk at hmoves hlast ⊢
      cases hend : talk.getLast? with
      | none =>
        rw [List.getLast?_eq_none_iff.mp hend] at hmoves
        cases hmoves
      | some x =>
        rw [hend] at hlast
        exact ⟨x, rfl, hlast⟩
    · exact .brokeOff failure hresult hbroke parameters hannounced

/-- **Which course a dialogue took shows in what was said**: it succeeded if all moves were accepted
and the mail was begun, and failed for good if it was refused for good. -/
theorem Course.classified {r : Ran σ} (h : Course route text r) :
    (∃ parameters, mailMoves r.talk <+: route.moves text parameters) ∧
      (∀ x ∈ (unaccepted r.talk).tail, x.1 = .quit) ∧
      ((∃ reply, r.result = .ok reply) ↔ Accepted r.talk) ∧
      ∀ failure, r.result = .error failure →
        (failure.isPermanent = true ↔
          ∃ reply, refusal? r.talk = some reply ∧ reply.isPermanent = true) := by
  cases h with
  | gaveUp failure result flag good own =>
    -- nothing was refused, but no mail was begun either
    refine ⟨⟨[], by rw [own]; exact List.nil_prefix⟩, tail_unaccepted_of_good good, ?_, ?_⟩
    · refine iff_of_false (fun ⟨reply, hok⟩ => ?_) fun ⟨_, x, hx, hofMail⟩ => ?_
      · rw [result] at hok
        cases hok
      · have hmem : x.1 ∈ mailMoves r.talk :=
          List.mem_filter.mpr ⟨List.mem_map_of_mem hx, hofMail⟩
        rw [own] at hmem
        cases hmem
    · intro failure' hfailure
      rw [result] at hfailure
      obtain rfl := Except.error.inj hfailure
      rw [flag, refusal?, unaccepted_of_good good]
      exact iff_of_false Bool.false_ne_true nofun
  | brokeOff failure result broke parameters announced =>
    obtain ⟨⟨x, after, hrest, hflag, -, hquit⟩, hnot⟩ := broke.unaccepted
    refine ⟨⟨parameters, announced⟩, by rw [hrest]; exact hquit, ?_, ?_⟩
    · refine iff_of_false (fun ⟨reply, hok⟩ => ?_) hnot
      rw [result] at hok
      cases hok
    · intro failure' hfailure
      rw [result] at hfailure
      obtain rfl := Except.error.inj hfailure
      rw [← hflag, refusesForGood_iff, refusal?, hrest]
      rfl
  | handedOver reply result opening parameters moves own good last =>
    refine ⟨⟨parameters, ?_⟩, tail_unaccepted_of_good good, ?_, ?_⟩
    · unfold mailMoves
      rw [moves, List.filter_append, List.filter_eq_self.mpr Route.isOfMail_of_mem_moves,
        List.filter_eq_nil_iff.mpr fun m hm => by rw [own m hm]; exact Bool.false_ne_true]
      exact List.prefix_rfl
    · refine iff_of_true ⟨reply, result⟩ ⟨good, ?_⟩
      have hmem : Move.mail route.sender parameters ∈ r.talk.map Prod.fst :=
        moves ▸ List.mem_append_right opening (route.mail_mem_moves text parameters)
      obtain ⟨x, hx, hmail⟩ := List.mem_map.mp hmem
      exact ⟨x, hx, by rw [hmail]; rfl⟩
    · intro failure hfailure
      rw [result] at hfailure
      cases hfailure

end run

end LocalizedMail.Smtp
