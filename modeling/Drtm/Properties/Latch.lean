import Drtm.Properties.Lookup

/-!
# The verdict on the header

The header is parsed once.  As long as its symbol is not resolved nothing
happens; the first call that resolves it decides for all later ones.
-/

namespace Drtm

open Foundation RunTimeData

namespace Metadata

structure ParseCall where
  backend : Backend
  verdict : Bool
  events : List Event

def ParseStep (md : Metadata) (call : ParseCall) (md' : Metadata) : Prop :=
  md.parse call.backend = ⟨(call.verdict, md'), call.events⟩

def ParseCall.Unresolved (call : ParseCall) : Prop :=
  call.backend.symbolAddress drtmSymbolName = 0

/-- What a sequence of parses comes to. -/
inductive Parsed (start : Metadata) (calls : List ParseCall) (md : Metadata) :
    Prop
  | waiting (hcalls : ∀ call ∈ calls, call.Unresolved ∧ call.verdict = false)
      (hsame : md = start)
  | decided (before : List ParseCall) (call : ParseCall)
      (after : List ParseCall) (hcalls : calls = before ++ call :: after)
      (hbefore : ∀ other ∈ before, other.Unresolved ∧ other.verdict = false)
      (hcall : ¬ call.Unresolved) (hstep : ParseStep start call md)
      (hafter : ∀ other ∈ after,
        other.verdict = call.verdict ∧ other.events = [])
      (hlater : ∀ backend, md.parse backend = ⟨(call.verdict, md), []⟩)

variable {backend : Backend} {md md' start : Metadata}
  {calls : List ParseCall} {call : ParseCall}

theorem flags_of_resolved (hparsed : md.wasParsed = false)
    (havailable : md.isAvailable = false)
    (hsymbol : backend.symbolAddress drtmSymbolName ≠ 0) :
    (md.parse backend).value.2.wasParsed = true ∧
      (md.parse backend).value.2.isAvailable =
        (md.parse backend).value.1 := by
  by_cases hid : Identified backend md (backend.symbolAddress drtmSymbolName)
  · rw [parse_of_identified hparsed rfl hsymbol hid]
    exact ⟨rfl, rfl⟩
  · obtain ⟨magic, version, hparse⟩ :=
      parse_of_not_identified hparsed rfl hsymbol hid
    rw [hparse]
    exact ⟨rfl, havailable⟩

theorem Parsed.snoc (hparsed : start.wasParsed = false)
    (havailable : start.isAvailable = false) (h : Parsed start calls md)
    (hstep : ParseStep md call md') : Parsed start (calls ++ [call]) md' := by
  have hvalue := congrArg Traced.value hstep
  cases h with
  | waiting hcalls hsame =>
      subst hsame
      by_cases hsymbol : call.Unresolved
      · rw [parse_of_unresolved hparsed hsymbol] at hvalue
        obtain ⟨hverdict, rfl⟩ := Prod.mk.inj hvalue
        refine .waiting ?_ rfl
        intro other hother
        rcases List.mem_append.mp hother with hbefore | hlast
        · exact hcalls other hbefore
        · obtain rfl := List.mem_singleton.mp hlast
          exact ⟨hsymbol, hverdict.symm⟩
      · refine .decided calls call [] rfl hcalls hsymbol hstep
          (fun _ hother => absurd hother List.not_mem_nil) ?_
        have hflags := flags_of_resolved hparsed havailable hsymbol
        rw [hvalue] at hflags
        intro backend
        rw [parse_of_wasParsed hflags.1, hflags.2]
  | decided before first after hcalls hbefore hfirst hdecides hafter hlater =>
      have hcall : ParseStep md call md' := hstep
      rw [ParseStep, hlater call.backend] at hcall
      obtain ⟨hpair, hevents⟩ := Traced.mk.inj hcall
      obtain ⟨hverdict, rfl⟩ := Prod.mk.inj hpair
      refine .decided before first (after ++ [call]) (by simp [hcalls]) hbefore
        hfirst hdecides ?_ hlater
      intro other hother
      rcases List.mem_append.mp hother with hearlier | hlast
      · exact hafter other hearlier
      · obtain rfl := List.mem_singleton.mp hlast
        exact ⟨hverdict.symm, hevents.symm⟩

theorem parsed_of_run (hparsed : start.wasParsed = false)
    (havailable : start.isAvailable = false)
    (hrun : Run ParseStep start calls md) : Parsed start calls md :=
  hrun.history_invariant
    (.waiting (fun _ hcall => absurd hcall List.not_mem_nil) rfl)
    fun _ _ _ _ h hstep => h.snoc hparsed havailable hstep

end Metadata

/-! ## Updates in a session -/

def Request.isUpdate : Request → Bool
  | .update => true
  | .registers _ _ _ _ => false

def lastUpdate (calls : List Call) : Option Call :=
  (calls.filter fun call => call.request.isUpdate).getLast?

theorem lastUpdate_snoc (calls : List Call) (call : Call) :
    lastUpdate (calls ++ [call]) =
      if call.request.isUpdate then some call else lastUpdate calls := by
  rw [lastUpdate, List.filter_append]
  cases h : call.request.isUpdate <;> simp [lastUpdate, h]

namespace Frontend

variable {backend : Backend} {s s' start : Frontend} {ret : Int}
  {calls : List Call} {call : Call}

theorem Updated.latched (hs : s.Coherent) (h : Updated backend s ret s')
    (hret : ret = 0) : s'.metadata.Latched := by
  cases h with
  | rejected _ => cases hret
  | stopped hheader _ => exact hheader.latched hs
  | listed hheader _ _ => exact hheader.latched hs

theorem Updated.of_latched (hlatched : s.metadata.Latched)
    (h : Updated backend s ret s') : s'.metadata = s.metadata ∧ ret = 0 := by
  obtain ⟨hheader, hsame⟩ := header_of_latched backend hlatched
  cases h with
  | rejected hrejected => exact absurd hheader hrejected
  | stopped _ _ => exact ⟨hsame, rfl⟩
  | listed _ _ _ => exact ⟨hsame, rfl⟩

theorem Updated.stopped_of_rejected (hs : s.Coherent)
    (h : Updated backend s ret s') (hret : ret = -1) :
    s'.isSchedulerStarted = false := by
  cases h with
  | rejected hrejected =>
      -- A started scheduler was seen through an accepted header.
      rw [← Bool.not_eq_true]
      exact fun hstarted => hrejected (hs.hasHeader hstarted)
  | stopped _ _ => rfl
  | listed _ _ _ => cases hret

theorem step_cases (hs : s.Coherent) (hstep : Step s call s') :
    call.request = .update ∧ Updated call.backend s call.ret s' ∨
      call.request.isUpdate = false ∧
        s'.withoutContexts = s.withoutContexts := by
  obtain ⟨backend, request, ret, events⟩ := call
  cases request with
  | update => exact Or.inl ⟨rfl, hstep.updated rfl⟩
  | registers tid which out size =>
      obtain ⟨out', hquery⟩ := hstep
      exact Or.inr ⟨rfl, hs.withoutContexts_queried hquery⟩

theorem pairwise_updates (hstart : Fresh start) (hrun : Run Step start calls s) :
    calls.Pairwise fun first later =>
      (first.request = .update ∧ first.ret = 0) →
        (later.request = .update → later.ret = 0) := by
  refine hrun.pairwise (P := Frontend.Coherent)
    (I := fun s => s.metadata.Latched) hstart.coherent
    (fun _ _ _ h hstep => hstep.coherent h) ?_ ?_
  · rintro s call s' hs hstep ⟨hupdate, hret⟩
    rcases step_cases hs hstep with ⟨-, hupdated⟩ | ⟨hquery, -⟩
    · exact hupdated.latched hs hret
    · rw [hupdate] at hquery
      cases hquery
  · intro s call s' hs hstep hlatched
    rcases step_cases hs hstep with ⟨-, hupdated⟩ | ⟨hquery, hsame⟩
    · obtain ⟨hmd, hret⟩ := hupdated.of_latched hlatched
      exact ⟨hmd ▸ hlatched, fun _ => hret⟩
    · have hmd := congrArg metadata hsame
      change s'.metadata = s.metadata at hmd
      refine ⟨hmd ▸ hlatched, fun hupdate => ?_⟩
      rw [hupdate] at hquery
      cases hquery

theorem stopped_of_lastUpdate (hstart : Fresh start)
    (hrun : Run Step start calls s) (hlast : lastUpdate calls = some call)
    (hret : call.ret = -1) : s.isSchedulerStarted = false := by
  have hall := hrun.history_invariant
    (P := fun calls s => s.Coherent ∧ ∀ call, lastUpdate calls = some call →
      call.ret = -1 → s.isSchedulerStarted = false)
    ⟨hstart.coherent, nofun⟩ ?_
  · exact hall.2 call hlast hret
  rintro calls s label s' ⟨hs, hstopped⟩ hstep
  refine ⟨hstep.coherent hs, fun last hlast hret => ?_⟩
  rw [lastUpdate_snoc] at hlast
  rcases step_cases hs hstep with ⟨hupdate, hupdated⟩ | ⟨hquery, hsame⟩
  · rw [hupdate, Request.isUpdate, if_pos rfl] at hlast
    obtain rfl := Option.some.inj hlast
    exact hupdated.stopped_of_rejected hs hret
  · rw [hquery, if_neg Bool.false_ne_true] at hlast
    exact (congrArg isSchedulerStarted hsame).trans
      (hstopped last hlast hret)

/--
The verdict on the header is made once: over any sequence of parses, and, in a
session, over its updates.
-/
theorem verdict_made_once {md md₀ : Metadata}
    {parses : List Metadata.ParseCall} (hparsed : md₀.wasParsed = false)
    (havailable : md₀.isAvailable = false)
    (hparses : Run Metadata.ParseStep md₀ parses md) (hstart : Fresh start)
    (hrun : Run Step start calls s) :
    Metadata.Parsed md₀ parses md ∧
      (calls.Pairwise fun first later =>
        (first.request = .update ∧ first.ret = 0) →
          (later.request = .update → later.ret = 0)) ∧
      ∀ call, lastUpdate calls = some call → call.ret = -1 →
        s.getThreadsCount = 0 ∧ s.getCurrentThreadId = Thread.idNone := by
  refine ⟨Metadata.parsed_of_run hparsed havailable hparses,
    pairwise_updates hstart hrun, fun call hlast hret => ?_⟩
  have hstopped := stopped_of_lastUpdate hstart hrun hlast hret
  constructor
  · simp [getThreadsCount, hstopped]
  · simp [getCurrentThreadId, hstopped]

def unresolvedTarget : Backend := Backend.ofMemory .little 0
  (fun _ => true) fun _ => 0

def blankTarget : Backend := Backend.ofMemory .little Image.headerAddr
  (fun _ => true) fun _ => 0

theorem verdict_made_once_blankTarget :
    ∃ md s events events',
      Metadata.Parsed Image.rawMetadata [⟨unresolvedTarget, false, events⟩,
        ⟨blankTarget, false, events'⟩] md ∧
      Updated blankTarget Image.powerOn (-1) s ∧ s.getThreadsCount = 0 := by
  have hupdated : Updated blankTarget Image.powerOn (-1) _ :=
    .rejected (by decide)
  obtain ⟨events, hstep⟩ := exists_step_of_updated hupdated
  have hfirst : Metadata.ParseStep Image.rawMetadata
      ⟨unresolvedTarget, false,
        (Image.rawMetadata.parse unresolvedTarget).events⟩
      Image.rawMetadata :=
    Traced.ext (Metadata.parse_of_unresolved rfl rfl) rfl
  have hsecond : Metadata.ParseStep Image.rawMetadata
      ⟨blankTarget, false, (Image.rawMetadata.parse blankTarget).events⟩
      (Image.rawMetadata.parse blankTarget).value.2 :=
    Traced.ext (Prod.ext (by decide) rfl) rfl
  obtain ⟨hparsed, -, hshown⟩ := verdict_made_once rfl rfl
    ((Run.nil.snoc hfirst).snoc hsecond) Image.fresh_powerOn (.snoc .nil hstep)
  exact ⟨_, _, _, _, hparsed, hupdated, (hshown _ rfl rfl).1⟩

end Frontend

end Drtm
