import SidecarProxy.Proofs.ModuleCache.Cells

/-!
# Who is told an answer

The control plane answers the call that asks.  Main statements: a document on
record was the answer to the call that sent the fetch, and a call fails exactly
when it is told an answer that gives no table.
-/

namespace SidecarProxy
namespace ModuleCache

open Catalog

section Documents

variable {c c' : Cache}

theorem document_closeFetch
    {fetch i n : Nat} {f : Fetch} {d : ModuleDescription}
    {document : Except ControlPlane.Failure ModuleDescription}
    (hsent : c.SentBy fetch n)
    (hf : (c.closeFetch fetch document.toOption).fetches[i]? = some f)
    (hd : f.document = some d) :
    (∃ before, c.fetches[i]? = some before ∧ before.call = f.call ∧ before.document = some d) ∨
      Move.answer n document = .answer f.call (.ok d) := by
  obtain ⟨before, hbefore, rfl⟩ := (fetches_closeFetch_eq_some_iff c fetch i _ f).1 hf
  split at hd
  · next hi =>
      subst hi
      obtain ⟨sent, hsent, rfl⟩ := hsent
      cases hbefore.symm.trans hsent
      cases document with
      | error e =>
          cases hd
      | ok d' =>
          cases hd
          rw [if_pos rfl]
          exact Or.inr rfl
  · next hi =>
      rw [if_neg hi]
      exact Or.inl ⟨before, hbefore, rfl, hd⟩

/-- A document was on record before, or it is the answer of this step. -/
theorem document_step
    {m : Move} {i : Nat} {f : Fetch} {d : ModuleDescription}
    (h : Records c)
    (hstep : Step c m c')
    (hf : c'.fetches[i]? = some f)
    (hd : f.document = some d) :
    (∃ before, c.fetches[i]? = some before ∧ before.call = f.call ∧ before.document = some d) ∨
      m = .answer f.call (.ok d) := by
  cases hstep with
  | load hcall hphase hcontent hloader hturn =>
      rcases fetches_openFetch_cases hf with hf | ⟨-, rfl⟩
      · exact Or.inl ⟨f, hf, rfl, hd⟩
      · cases hd
  | fill hcall hphase htable =>
      exact document_closeFetch (h.loading hcall hphase).2 hf hd
  | fail hcall hphase hfailure =>
      exact document_closeFetch (h.loading hcall hphase).2 hf hd
  | @stop n call fetch hcall hphase =>
      obtain ⟨before, hbefore, rfl⟩ := (fetches_closeFetch_eq_some_iff c fetch i none f).1 hf
      split at hd
      · cases hd
      · next hi =>
          rw [if_neg hi]
          exact Or.inl ⟨before, hbefore, rfl, hd⟩
  | _ =>
      exact Or.inl ⟨f, hf, rfl, hd⟩

/-- Every document on record was an answer to the call that asked for it. -/
theorem answer_mem_of_document
    {l : Limits} {ms : List Move} {i : Nat} {f : Fetch} {d : ModuleDescription}
    (hrun : ({ limits := l } : Cache).run? ms = some c)
    (hf : c.fetches[i]? = some f)
    (hd : f.document = some d) :
    Move.answer f.call (.ok d) ∈ ms := by
  have hkeeps := run?_keeps
    (P := fun c => Coherent c ∧ ∀ (i : Nat) (f : Fetch), c.fetches[i]? = some f →
      f.document = some d → Move.answer f.call (.ok d) ∈ ms)
    (by
      rintro c m c' hm ⟨h, hmem⟩ hstep
      refine ⟨coherent_step h hstep, ?_⟩
      intro i f hf hd
      rcases document_step h.records hstep hf hd with ⟨before, hbefore, hcall, hdocument⟩ | rfl
      · exact hcall ▸ hmem i before hbefore hdocument
      · exact hm)
    ⟨coherent_initial l, by simp⟩ hrun
  exact hkeeps.2 i f hf hd

end Documents

section Failures

variable {c c' : Cache} {n : Nat} {call : Call} {e : ControlPlane.Failure}

theorem failed_setPhase
    {k : Nat} {before : Call} {phase : Phase}
    (hbefore : c.calls[k]? = some before)
    (hcall : (c.setPhase k phase).calls[n]? = some call)
    (hfailed : call.phase = .failed e) :
    c.calls[n]? = some call ∨ n = k ∧ phase = .failed e := by
  rcases calls_setPhase_cases hbefore hcall with ⟨hn, rfl⟩ | ⟨-, hcall⟩
  · exact Or.inr ⟨hn, hfailed⟩
  · exact Or.inl hcall

/-- A call had failed before, or it is told that it fails. -/
theorem failure_step
    {m : Move}
    (hstep : Step c m c')
    (hcall : c'.calls[n]? = some call)
    (hfailed : call.phase = .failed e) :
    c.calls[n]? = some call ∨
      ∃ document, m = .answer n document ∧ Cache.compile document = .error e := by
  cases hstep with
  | pass nanos =>
      exact Or.inl hcall
  | enter key =>
      rcases calls_enter_eq_some hcall with hcall | rfl
      · exact Or.inl hcall
      · cases hfailed
  | fail hbefore hphase hfailure =>
      rcases failed_setPhase hbefore hcall hfailed with hcall | ⟨rfl, hsame⟩
      · exact Or.inl hcall
      · cases hsame
        exact Or.inr ⟨_, rfl, hfailure⟩
  | invalidate key =>
      exact Or.inl hcall
  | _ =>
      exact Or.inl ((failed_setPhase (by assumption) hcall hfailed).resolve_right (by simp))

theorem failed_of_answer
    {document : Except ControlPlane.Failure ModuleDescription}
    (hstep : Step c (.answer n document) c')
    (herror : Cache.compile document = .error e) :
    ∃ call, c'.calls[n]? = some call ∧ call.phase = .failed e := by
  cases hstep with
  | fill hbefore hphase htable =>
      cases herror.symm.trans htable
  | fail hbefore hphase hfailure =>
      cases herror.symm.trans hfailure
      exact ⟨_, calls_setPhase_self hbefore _, rfl⟩

/-- A call that comes in fails exactly when it is told an answer that gives no table. -/
theorem failed_iff_answer_mem
    {ms : List Move}
    (h : Coherent c)
    (hrun : c.run? ms = some c')
    (hn : c.calls.length ≤ n)
    (hcall : c'.calls[n]? = some call)
    (e : ControlPlane.Failure) :
    call.phase = .failed e ↔
      ∃ document, Move.answer n document ∈ ms ∧ Cache.compile document = .error e := by
  refine ⟨?_, ?_⟩
  · have hkeeps := run?_keeps
      (P := fun c' => ∀ call, c'.calls[n]? = some call → call.phase = .failed e →
        ∃ document, Move.answer n document ∈ ms ∧ Cache.compile document = .error e)
      (by
        rintro c₁ m c₂ hm htold hstep call hcall hfailed
        rcases failure_step hstep hcall hfailed with hcall | ⟨document, rfl, herror⟩
        · exact htold call hcall hfailed
        · exact ⟨document, hm, herror⟩)
      (by simp [List.getElem?_eq_none hn]) hrun
    exact hkeeps call hcall
  · rintro ⟨document, hmem, herror⟩
    obtain ⟨front, back, rfl⟩ := List.append_of_mem hmem
    rw [run?_append] at hrun
    obtain ⟨mid, hfront, hrun⟩ := Option.bind_eq_some_iff.1 hrun
    obtain ⟨next, hnext, hback⟩ := (run?_cons_eq_some_iff mid c' _ back).1 hrun
    obtain ⟨told, htold, hfailed⟩ := failed_of_answer hnext herror
    -- A call that has failed stays as it is.
    have hlater := (coherent_step (h.run? hfront) hnext).later hback
    obtain ⟨after, hafter, hstays⟩ := hlater.calls n told htold
    cases hafter.symm.trans hcall
    rw [hstays.ended (by simp [Cache.isOpen, hfailed]), hfailed]

end Failures

end ModuleCache
end SidecarProxy
