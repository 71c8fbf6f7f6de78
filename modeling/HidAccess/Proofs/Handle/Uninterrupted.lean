import HidAccess.Proofs.Handle.Threads

/-! The steps of one thread, taken without a step of another between them, are its operation: the
same answer, the same handle and the same world. -/

namespace HidAccess.Handle
variable {T W D α : Type}

inductive Point.Finishes (p : Platform W D) (t : T) :
    Common T W D → Point W D → Answer → Common T W D → Prop
  | last {g g' : Common T W D} {pt : Point W D} {deed : Deed D} {a : Answer} :
      pt.move p t g = some (deed, none, g') → deed.answer? = some a → Finishes p t g pt a g'
  | next {g g' g'' : Common T W D} {pt pt' : Point W D} {deed : Deed D} {a : Answer} :
      pt.move p t g = some (deed, some pt', g') → Finishes p t g' pt' a g'' → Finishes p t g pt a g''

theorem withDevice_map {β : Type} (c : DeviceCalls W D Received) (now : W → Instant × W) (f : α → β)
    (call : D → W → Outcome W α) (h : Handle D) (w : W) :
    withDevice (c.alone now) (fun d w => Prod.map (Except.map f) id (call d w)) h w =
      Prod.map (Except.map f) id (withDevice (c.alone now) call h w) := by
  cases hl : h.live? with
  | none =>
    rw [withDevice_of_not_live c now hl, withDevice_of_not_live c now hl]
    rfl
  | some d =>
    rw [withDevice_of_live c now hl, withDevice_of_live c now hl]
    generalize call d w = x
    obtain ⟨e | a, w'⟩ := x
    · rfl
    · rfl

namespace Point.Finishes
variable (c : DeviceCalls W D Received) (now : W → Instant × W) {t : T} {h h' : Handle D} {w w' : W}
  {g : Common T W D} {a : Answer}

theorem returning (p : Platform W D) (g : Common T W D) (a : Answer) :
    Finishes p t g (.returning a) a g :=
  .last rfl rfl

theorem calling {e : Errand W D} {d : D} (hl : h.live? = some d)
    {r : Except AccessError Sequel}
    (hw : withDevice (c.alone now) (e.call (c.alone now)) h w = (r, h', w'))
    (hf : Finishes (c.alone now) t ⟨h', none, w'⟩ (Sequel.ofCall r).next a g) :
    Finishes (c.alone now) t ⟨h, some t, w⟩ (.calling e d) a g := by
  rw [withDevice_of_live c now hl] at hw
  generalize hc : e.call (c.alone now) d w = x at hw
  obtain ⟨result, w₁⟩ := x
  have hm : (Point.calling e d).move (c.alone now) t ⟨h, some t, w⟩ = some (.ended result,
      some (if isLost result then .retiring (.ofCall result) else .leaving (.ofCall result)),
      ⟨h, some t, w₁⟩) := by simp only [move, hc]
  cases result with
  | ok sequel =>
    cases hw
    exact .next hm (.next rfl hf)
  | error x =>
    simp only [settle, Prod.mk.injEq] at hw
    obtain ⟨rfl, hw⟩ := hw
    cases hd : x.isDisconnect with
    | false =>
      rw [hd, if_neg Bool.false_ne_true] at hw
      cases hw
      rw [isLost, hd, if_neg Bool.false_ne_true] at hm
      exact .next hm (.next rfl hf)
    | true =>
      rw [hd, if_pos rfl] at hw
      rw [isLost, hd, if_pos rfl] at hm
      have hr : (Point.retiring (.ofCall (.error x))).move (c.alone now) t ⟨h, some t, w₁⟩ =
          some (.released h.device, some (.leaving (.ofCall (.error x))), ⟨h', some t, w'⟩) := by
        simp only [move, hw]
      exact .next hm (.next hr (.next rfl hf))

theorem entering {e : Errand W D} {r : Except AccessError Sequel}
    (hw : withDevice (c.alone now) (e.call (c.alone now)) h w = (r, h', w'))
    (hf : Finishes (c.alone now) t ⟨h', none, w'⟩ (Sequel.ofCall r).next a g) :
    Finishes (c.alone now) t ⟨h, none, w⟩ (.entering e) a g := by
  have hm : (Point.entering e).move (c.alone now) t ⟨h, none, w⟩ = some (.loaded h.closed,
      some (if h.closed then .returning refusal else .queued e), ⟨h, none, w⟩) := rfl
  cases hl : h.live? with
  | some d =>
    have hm' : (Point.locked e).move (c.alone now) t ⟨h, some t, w⟩ =
        some (.rechecked (some d), some (.ready e d), ⟨h, some t, w⟩) := by
      simp only [move, hl]
    rw [(live?_eq_some.mp hl).1] at hm
    exact .next hm (.next rfl (.next hm' (.next rfl (calling c now hl hw hf))))
  | none =>
    have hm' : (Point.locked e).move (c.alone now) t ⟨h, some t, w⟩ =
        some (.rechecked none, some (.leaving (.answer refusal)), ⟨h, some t, w⟩) := by
      simp only [move, hl]
    rw [withDevice_of_not_live c now hl] at hw
    cases hw
    cases hc : h.closed with
    | true =>
      rw [hc] at hm
      exact .next hm hf
    | false =>
      rw [hc] at hm
      exact .next hm (.next rfl (.next hm' (.next rfl hf)))

theorem transferring {answer : α → Answer} {call : D → W → Outcome W α} {r : Except AccessError α}
    (hw : withDevice (c.alone now) call h w = (r, h', w')) :
    Finishes (c.alone now) t ⟨h, none, w⟩ (Handle.transferring answer call)
      (.ofExcept answer r) ⟨h', none, w'⟩ := by
  have hw' : withDevice (c.alone now) (Errand.call (c.alone now)
      (.transfer fun d w => Prod.map (Except.map answer) id (call d w))) h w =
      ((r.map answer).map .answer, h', w') := by
    rw [Errand.call, withDevice_map, withDevice_map, hw]
    rfl
  refine entering c now hw' ?_
  cases r with
  | ok a => exact returning _ _ _
  | error e => exact returning _ _ _

theorem refusedOr {refusal : Option AccessError} {pt : Point W D}
    {act : Handle D → W → Except AccessError α × Handle D × W} {answer : α → Answer}
    (hf : Finishes (c.alone now) t ⟨h, none, w⟩ pt (.ofExcept answer (act h w).1)
      ⟨(act h w).2.1, none, (act h w).2.2⟩) :
    Finishes (c.alone now) t ⟨h, none, w⟩ (Handle.refusedOr refusal pt)
      (.ofExcept answer (refusing refusal act h w).1)
      ⟨(refusing refusal act h w).2.1, none, (refusing refusal act h w).2.2⟩ := by
  cases refusal with
  | none => exact hf
  | some e => exact returning _ _ _

theorem timing {slices : Nat} {r : Reading} {ended : ReadEnd}
    (hr : readSlices (c.alone now) slices r h w = (ended, h', w')) (hw : ended ≠ .waiting) :
    Finishes (c.alone now) t ⟨h, none, w⟩ (.timing r) (.ofRead ended) ⟨h', none, w'⟩ := by
  induction slices generalizing r h w with
  | zero =>
    cases hr
    exact absurd rfl hw
  | succ slices ih =>
    have hm : (Point.timing r).move (c.alone now) t ⟨h, none, w⟩ = some (.timed (now w).1,
      some (.entering (.slice r (r.slice h.interval (now w).1))), ⟨h, none, (now w).2⟩) := rfl
    simp only [readSlices, readSlice, show (c.alone now).now = now from rfl] at hr
    have hx : withDevice (c.alone now) (Errand.call (c.alone now)
        (.slice r (r.slice h.interval (now w).1))) h (now w).2 =
        Prod.map (Except.map (.consider r)) id (withDevice (c.alone now)
          (fun d w' => (c.alone now).read d r.buffer (r.slice h.interval (now w).1) w') h
          (now w).2) := withDevice_map c now _ _ h _
    generalize withDevice (c.alone now) (fun d w' => (c.alone now).read d r.buffer
      (r.slice h.interval (now w).1) w') h (now w).2 = x at hx hr
    obtain ⟨e | received, h₁, w₁⟩ := x
    · cases hr
      exact .next hm (entering c now hx (returning _ _ _))
    · refine .next hm (entering c now hx ?_)
      cases ha : r.after received (now w₁).1 with
      | error ended' =>
        have hm' : (Point.considering r received).move (c.alone now) t ⟨h₁, none, w₁⟩ =
            some (.considered received (now w₁).1, some (.returning (.ofRead ended')),
              ⟨h₁, none, (now w₁).2⟩) := by
          simp only [move, DeviceCalls.alone, ha]
        simp only [ha] at hr
        cases hr
        exact .next hm' (returning _ _ _)
      | ok r' =>
        have hm' : (Point.considering r received).move (c.alone now) t ⟨h₁, none, w₁⟩ =
            some (.considered received (now w₁).1, some (.timing r'), ⟨h₁, none, (now w₁).2⟩) := by
          simp only [move, DeviceCalls.alone, ha]
        simp only [ha] at hr
        exact .next hm' (ih hr)

theorem closing :
    Finishes (c.alone now) t ⟨h, none, w⟩ .closing (perform (c.alone now) .close h w).1
      ⟨(perform (c.alone now) .close h w).2.1, none, (perform (c.alone now) .close h w).2.2⟩ := by
  have hm : (Point.closing).move (c.alone now) t ⟨h, none, w⟩ = some (.swapped !h.closed,
      some (if h.closed then .closed (.error .handleClosed) else .awaiting),
      ⟨{ h with closed := true }, none, w⟩) := rfl
  rw [perform_close]
  cases hc : h.closed with
  | true =>
    have hsame : { h with closed := true } = h := by rw [← hc]
    rw [hc, hsame] at hm
    exact .next hm (.last rfl rfl)
  | false =>
    rw [hc] at hm
    exact .next hm (.next rfl (.next rfl (.next rfl (.next rfl (.last rfl rfl)))))

theorem opening {more length : Nat} {timeout : Option Duration}
    (hw : (perform (c.alone now) (.read more length timeout) h w).1 ≠ .waiting) :
    Finishes (c.alone now) t ⟨h, none, w⟩ (.opening length timeout)
      (perform (c.alone now) (.read more length timeout) h w).1
      ⟨(perform (c.alone now) (.read more length timeout) h w).2.1, none,
        (perform (c.alone now) (.read more length timeout) h w).2.2⟩ := by
  have hm : (Point.opening length timeout).move (c.alone now) t ⟨h, none, w⟩ =
      some (.loaded h.closed, some (if length = 0 then .returning (.failed emptyRead)
        else if h.closed then .returning refusal
        else .starting length timeout (now w).1), ⟨h, none, (now w).2⟩) := rfl
  by_cases hz : length = 0
  · have hs : h.startRead length timeout (now w).1 = .error (.returned (.error emptyRead)) := by
      simp only [startRead, hz, if_true]
    rw [if_pos hz] at hm
    rw [perform, read_of_refused c now hs]
    exact .next hm (returning _ _ _)
  rw [if_neg hz] at hm
  cases hc : h.closed with
  | true =>
    rw [hc] at hm
    rw [perform, read_of_refused c now (startRead_of_closed hz hc timeout _)]
    exact .next hm (returning _ _ _)
  | false =>
    rw [hc] at hm
    have hs := startRead_of_open hz hc timeout (now w).1
    cases hcrash : readCrash? length timeout (now w).1 with
    | some crash =>
      have hm' : (Point.starting length timeout (now w).1).move (c.alone now) t ⟨h, none, (now w).2⟩ =
          some (.started, some (.returning (.crashed crash)), ⟨h, none, (now w).2⟩) := by
        rw [Point.move, hcrash]
      rw [hcrash] at hs
      rw [perform, read_of_refused c now hs]
      exact .next hm (.next hm' (returning _ _ _))
    | none =>
      have hm' : (Point.starting length timeout (now w).1).move (c.alone now) t ⟨h, none, (now w).2⟩ =
          some (.started, some (.timing (h.reading length (timeout.bind (now w).1.after?))),
            ⟨h, none, (now w).2⟩) := by
        rw [Point.move, hcrash]
      rw [hcrash] at hs
      rw [perform, read_of_started c now hs] at hw ⊢
      generalize hx : readSlices (c.alone now) (more + 1) _ h (now w).2 = x at hw ⊢
      obtain ⟨ended, h', w'⟩ := x
      exact .next hm (.next hm' (timing c now hx fun he => hw (congrArg Answer.ofRead he)))

end Point.Finishes

/-- What a thread does that nobody interrupts is what its operation does. -/
theorem finishes_perform (c : DeviceCalls W D Received) (now : W → Instant × W) (t : T)
    {o : Operation} {pt : Point W D} (hs : o.start? (c.alone now) = some pt) (h : Handle D) (w : W)
    (hw : (perform (c.alone now) o h w).1 ≠ .waiting) :
    pt.Finishes (c.alone now) t ⟨h, none, w⟩ (perform (c.alone now) o h w).1
      ⟨(perform (c.alone now) o h w).2.1, none, (perform (c.alone now) o h w).2.2⟩ := by
  cases o with
  | read more length timeout =>
    cases hs
    exact .opening c now hw
  | write report =>
    cases hs
    exact .refusedOr c now (.transferring c now rfl)
  | sendFeature report =>
    cases hs
    exact .refusedOr c now (.transferring c now rfl)
  | getFeature reportId length =>
    cases hs
    by_cases hz : length = 0
    · subst hz
      exact .returning _ _ _
    rw [perform, if_neg hz]
    cases hcrash : bufferCrash? length with
    | some crash =>
      rw [getFeature_of_crash _ hz hcrash]
      exact .returning _ _ _
    | none =>
      rw [getFeature_of_fits _ hz (bufferCrash?_eq_none_iff.mp hcrash)]
      generalize hx : withDevice (c.alone now) _ h w = x
      obtain ⟨r, h', w'⟩ := x
      have hf : Point.Finishes (c.alone now) t ⟨h, none, w⟩ _
          (.ofExcept (fun r => .report r.report) r) _ := .transferring c now hx
      cases r with
      | error e => exact hf
      | ok received => exact hf
  | text query =>
    cases hs
    exact .transferring c now rfl
  | setBlocking blocking =>
    cases hs
    rw [perform_setBlocking]
    have hm : (Point.switching blocking).move (c.alone now) t ⟨h, none, w⟩ =
        some (.loaded h.closed,
          some (if h.closed then .returning refusal else .storing blocking), ⟨h, none, w⟩) := rfl
    by_cases hc : h.closed = true
    · rw [if_pos hc] at hm ⊢
      exact .next hm (.returning _ _ _)
    · rw [if_neg hc] at hm ⊢
      exact .next hm (.next rfl (.returning _ _ _))
  | close =>
    cases hs
    exact .closing c now
  | drop => cases hs

end HidAccess.Handle
