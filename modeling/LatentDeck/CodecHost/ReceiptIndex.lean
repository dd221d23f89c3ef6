import LatentDeck.CodecHost.Footprints
import LatentDeck.CodecHost.Checks

/-!
# The receipts of the open sources

The receipt table of a worker is meant to be the inverse of the receipts of its open sources, and a
warm session to keep the receipts it was opened with. Both hold along every run in which no source
is validated twice and no handle fails to close with its source; a source that is validated again
leaves its old receipt in the table.
-/

namespace LatentDeck.CodecHost

open Effect Run
open Control (Uuid)

variable {bound : BoundCartridge}

theorem inspection_of_require {inspection : ProfileInspection}
    (required : bound.requireInspection = .ok inspection) : bound.inspection = some inspection := by
  unfold BoundCartridge.requireInspection at required
  cases inspected : bound.inspection with
  | none =>
    rw [inspected] at required
    exact nomatch required
  | some found =>
    rw [inspected] at required
    exact congrArg some (Except.ok.inj required)

variable {receipt : ProfileReceipt}

theorem fresh_of_checkReceipt {worker : Protocol2Worker} {payload : Control.ProfileValidate}
    {descriptor : CodecDescriptor} {inspection : ProfileInspection}
    (checked : worker.checkReceipt payload descriptor inspection receipt = .ok ()) :
    worker.receiptSources.lookup receipt.receiptId = none := by
  unfold Protocol2Worker.checkReceipt at checked
  rw [Fallible.check_eq_ok, Fallible.check_eq_ok, Fallible.guarded_eq_ok,
    Fallible.guarded_eq_ok] at checked
  have fresh := checked.2.2.2.1
  simpa [Dict.contains] using fresh

/-- The id of the receipt that an open source holds. -/
def SourceTable.receiptIdOf (table : SourceTable) (sourceId : Uuid) : Option Uuid :=
  (table.bound.lookup sourceId).bind fun bound => bound.receipt.map (·.receiptId)

/-- The sources that the warm session was opened with. -/
def Sessions.sources (sessions : Sessions) : List SourceBinding :=
  (sessions.player.map (·.source)).toList ++ sessions.deck.elim [] (·.sources)

/-- The receipt table names what the open sources hold, and the sources of the warm session hold
the receipts that they were opened with. -/
structure ReceiptsKept (table : SourceTable) (sources : List SourceBinding) : Prop where
  indexed : table.receiptSources.Inverts table.receiptIdOf
  held : ∀ source ∈ sources, table.receiptIdOf source.sourceId = some source.profileReceiptId

/-- `ReceiptsKept` of a worker. -/
abbrev Protocol2Worker.ReceiptsKept (worker : Protocol2Worker) : Prop :=
  CodecHost.ReceiptsKept worker.toSourceTable worker.toSessions.sources

variable {sources : List SourceBinding}

theorem ReceiptsKept.of_equal {before after : SourceTable}
    (kept : ReceiptsKept before sources) (index : after.receiptSources = before.receiptSources)
    (holds : after.receiptIdOf = before.receiptIdOf) : ReceiptsKept after sources :=
  ⟨by rw [index, holds]; exact kept.indexed, by rw [holds]; exact kept.held⟩

variable {table : SourceTable}

theorem ReceiptsKept.without_session (indexed : table.receiptSources.Inverts table.receiptIdOf) :
    ReceiptsKept table [] :=
  ⟨indexed, nofun⟩

variable {change : BoundCartridge → BoundCartridge}

/-- A change of one source that keeps its receipt. -/
theorem receiptIdOf_update (table : SourceTable) (sourceId : Uuid)
    (same : ∀ bound, (change bound).receipt = bound.receipt) :
    ({ table with bound := table.bound.update sourceId change } : SourceTable).receiptIdOf =
      table.receiptIdOf := by
  funext other
  unfold SourceTable.receiptIdOf
  rw [Dict.lookup_update]
  by_cases here : other = sourceId
  · rw [if_pos here]
    cases table.bound.lookup other with
    | none => rfl
    | some bound => simp [same]
  · rw [if_neg here]

theorem receiptIdOf_mapValues (table : SourceTable)
    (same : ∀ bound, (change bound).receipt = bound.receipt) :
    ({ table with bound := table.bound.mapValues change } : SourceTable).receiptIdOf =
      table.receiptIdOf := by
  funext other
  unfold SourceTable.receiptIdOf
  rw [Dict.lookup_mapValues]
  cases table.bound.lookup other with
  | none => rfl
  | some bound => simp [same]

variable {sourceId : Uuid}

theorem receiptIdOf_insert (table : SourceTable) (fresh : table.bound.lookup sourceId = none)
    (unvalidated : bound.receipt = none) :
    ({ table with bound := table.bound.insert sourceId bound } : SourceTable).receiptIdOf =
      table.receiptIdOf := by
  funext other
  unfold SourceTable.receiptIdOf
  rw [Dict.lookup_insert]
  by_cases here : other = sourceId
  · rw [if_pos here, here, fresh]
    simp [unvalidated]
  · rw [if_neg here]

theorem receiptIdOf_erase (table : SourceTable) (sourceId : Uuid) :
    ({ table with bound := table.bound.erase sourceId } : SourceTable).receiptIdOf =
      Function.update table.receiptIdOf sourceId none := by
  funext other
  unfold SourceTable.receiptIdOf
  rw [Dict.lookup_erase]
  by_cases here : other = sourceId
  · rw [if_pos here, here, Function.update_self]
    rfl
  · rw [if_neg here, Function.update_of_ne here]

theorem receiptIdOf_validated (table : SourceTable)
    (found : table.bound.lookup sourceId = some bound) (receipt : ProfileReceipt) :
    ({ table with bound := table.bound.update sourceId fun bound =>
        { bound with receipt := some receipt } } : SourceTable).receiptIdOf =
      Function.update table.receiptIdOf sourceId (some receipt.receiptId) := by
  funext other
  unfold SourceTable.receiptIdOf
  rw [Dict.lookup_update]
  by_cases here : other = sourceId
  · rw [if_pos here, here, Function.update_self, found]
    rfl
  · rw [if_neg here, Function.update_of_ne here]

theorem sources_identity (sessions : Sessions) :
    ({ sessions with
      player := sessions.player.map PlayerSession.identity
      deck := sessions.deck.map DeckSession.identity } : Sessions).sources =
      sessions.sources := by
  unfold Sessions.sources
  cases sessions.player <;> cases sessions.deck <;> rfl

/-- A frame keeps the receipts: the source table as a whole and the sources of the session. -/
def KeepsReceipts (frame : Frame Protocol2Worker) : Prop :=
  ∀ before after, frame.allows before after → before.ReceiptsKept → after.ReceiptsKept

theorem keepsReceipts_of_equal {frame : Frame Protocol2Worker}
    (table : ∀ before after, frame.allows before after →
      after.toSourceTable = before.toSourceTable)
    (sessions : ∀ before after, frame.allows before after →
      after.toSessions.sources = before.toSessions.sources) : KeepsReceipts frame := by
  intro before after changed kept
  rw [Protocol2Worker.ReceiptsKept, table _ _ changed, sessions _ _ changed]
  exact kept

theorem codecPart_keeps : KeepsReceipts codecPart :=
  keepsReceipts_of_equal (fun _ _ changed => Frame.seen Protocol2Worker.toSourceTable changed)
    (fun _ _ changed => congrArg Sessions.sources (Frame.seen Protocol2Worker.toSessions changed))

theorem importPart_keeps : KeepsReceipts importPart :=
  keepsReceipts_of_equal (fun _ _ changed => Frame.seen Protocol2Worker.toSourceTable changed)
    (fun _ _ changed => congrArg Sessions.sources (Frame.seen Protocol2Worker.toSessions changed))

theorem ringPart_keeps : KeepsReceipts ringPart :=
  keepsReceipts_of_equal (fun _ _ changed => Frame.seen Protocol2Worker.toSourceTable changed)
    (fun _ _ changed => congrArg Sessions.sources (Frame.seen Protocol2Worker.toSessions changed))

theorem sessionPart_keeps : KeepsReceipts sessionPart := by
  refine keepsReceipts_of_equal
    (fun _ _ changed => Frame.seen Protocol2Worker.toSourceTable changed) ?_
  intro before after changed
  have sources := Frame.seen (fun worker : Protocol2Worker => worker.toSessions.sources) changed
  calc after.toSessions.sources
      = _ := (sources_identity after.toSessions).symm
    _ = _ := sources
    _ = before.toSessions.sources := sources_identity before.toSessions

theorem settingPart_keeps : KeepsReceipts settingPart := fun before after changed =>
  sessionPart_keeps before after (sessionPart_of_settingPart before after changed)

variable {before : Protocol2Worker}

theorem handlePart_receipts {after : Protocol2Worker} (changed : handlePart.allows before after) :
    after.receiptSources = before.receiptSources ∧ after.receiptIdOf = before.receiptIdOf ∧
      after.toSessions = before.toSessions := by
  have receipts := Frame.seen (fun worker : Protocol2Worker => worker.receiptIdOf) changed
  have first := receiptIdOf_mapValues after.toSourceTable (fun bound => rfl :
    ∀ bound : BoundCartridge, bound.identity.receipt = bound.receipt)
  have second := receiptIdOf_mapValues before.toSourceTable (fun bound => rfl :
    ∀ bound : BoundCartridge, bound.identity.receipt = bound.receipt)
  exact ⟨Frame.seen (fun worker : Protocol2Worker => worker.receiptSources) changed,
    first.symm.trans (Eq.trans receipts second), Frame.seen Protocol2Worker.toSessions changed⟩

theorem handlePart_keeps : KeepsReceipts handlePart := by
  intro before after changed kept
  have same := handlePart_receipts changed
  rw [Protocol2Worker.ReceiptsKept, same.2.2]
  exact kept.of_equal same.1 same.2.1

variable (outside : Outside) {start : Protocol2Worker}

theorem sourceOpen_keeps (payload : Control.SourceOpen) (kept : start.ReceiptsKept) :
    Leaves (sourceOpen outside payload) start (·.ReceiptsKept) := by
  rw [Leaves, sourceOpen, leads_bind, leads_perform]
  refine ⟨fun access _ => ?_, fun _ _ => kept⟩
  rw [leads_catching, registerCartridge, leads_bind, leads_require]
  have closes : ∀ raised, Leaves (do perform outside (.closeCartridge access); throw raised :
      Act BoundCartridge) (start.record (.openCartridge payload) (.ok access))
      (·.ReceiptsKept) := by
    intro raised
    rw [Leaves, leads_bind, leads_perform]
    exact ⟨fun _ _ => kept, fun _ _ => kept⟩
  refine ⟨fun fresh => ?_, fun _ => closes _⟩
  refine leads_checked (fun found _ => ?_) fun _ _ => closes _
  refine leads_checked (fun _ _ => ?_) fun _ _ => closes _
  refine leads_demanded (fun _ => ?_) fun _ => closes _
  rw [leads_bind, leads_modify, leads_pure]
  have unopened : start.bound.lookup payload.sourceId = none := by
    simpa [Protocol2Worker.record, Dict.contains] using fresh
  exact kept.of_equal rfl (receiptIdOf_insert start.toSourceTable unopened rfl)

/-- A source that no session uses can go, when its receipt goes with it. -/
theorem ReceiptsKept.erase (kept : ReceiptsKept table sources)
    {receiptId : Uuid} (holds : table.receiptIdOf sourceId = some receiptId)
    (unused : ∀ source ∈ sources, source.sourceId ≠ sourceId) :
    ReceiptsKept
      { bound := table.bound.erase sourceId
        receiptSources := table.receiptSources.erase receiptId } sources := by
  have gone := receiptIdOf_erase table sourceId
  constructor
  · show (table.receiptSources.erase receiptId).Inverts _
    rw [show ({ bound := table.bound.erase sourceId
                receiptSources := table.receiptSources.erase receiptId } :
          SourceTable).receiptIdOf = Function.update table.receiptIdOf sourceId none from gone]
    exact kept.indexed.erase holds
  · intro source member
    have other := unused source member
    show ({ table with bound := table.bound.erase sourceId } : SourceTable).receiptIdOf _ = _
    rw [gone, Function.update_of_ne other]
    exact kept.held source member

theorem ReceiptsKept.erase_unvalidated
    (kept : ReceiptsKept table sources) (free : table.receiptIdOf sourceId = none) :
    ReceiptsKept { table with bound := table.bound.erase sourceId } sources := by
  have same : ({ table with bound := table.bound.erase sourceId } : SourceTable).receiptIdOf =
      table.receiptIdOf := by
    rw [receiptIdOf_erase, ← free, Function.update_eq_self]
  exact kept.of_equal rfl same

/-- A source that is not active is none of the session's. -/
theorem not_active {worker : Protocol2Worker} (idle : worker.sourceIsActive sourceId = false) :
    ∀ source ∈ worker.toSessions.sources, source.sourceId ≠ sourceId := by
  intro source member same
  unfold Protocol2Worker.sourceIsActive at idle
  unfold Sessions.sources at member
  rw [Bool.or_eq_false_iff] at idle
  rw [List.mem_append] at member
  cases member with
  | inl player =>
    cases open_ : worker.player with
    | none => simp [open_] at player
    | some found =>
      simp only [open_, Option.map_some, Option.toList_some, List.mem_singleton] at player
      simp [open_, ← player, same] at idle
  | inr deck =>
    cases loaded : worker.deck with
    | none => simp [loaded] at deck
    | some found =>
      simp only [loaded, Option.elim_some] at deck
      have all := idle.2
      rw [loaded, Option.any_some, List.any_eq_false] at all
      exact absurd (beq_iff_eq.mpr same) (all source deck)

/-- The handle of a source closes, or the source holds no receipt. -/
def ClosesCleanly (outside : Outside) (worker : Protocol2Worker) (sourceId : Uuid) : Prop :=
  ∀ bound handle, worker.bound.lookup sourceId = some bound → bound.handle = some handle →
    bound.receipt ≠ none → outside.answer (.closeHandle sourceId handle) = .ok ()

/-- `source.close` takes a source and its receipt away together, unless its handle fails to
close. -/
theorem sourceClose_keeps (payload : Control.SourceClose)
    (kept : start.ReceiptsKept) (closes : ClosesCleanly outside start payload.sourceId) :
    Leaves (sourceClose outside payload) start (·.ReceiptsKept) := by
  rw [Leaves, sourceClose, leads_bind, leads_require]
  refine ⟨fun idle => ?_, fun _ => kept⟩
  refine leads_read (fun bound found => ?_) fun _ _ => kept
  have unused := not_active (by simpa using idle)
  have found : start.bound.lookup payload.sourceId = some bound := by
    cases looked : start.bound.lookup payload.sourceId with
    | none =>
      rw [looked] at found
      cases found
    | some other =>
      rw [looked] at found
      cases found
      rfl
  rw [leads_bind, leads_modify, leads_bind]
  -- What is left is done with the source already out of the table.
  have rest : ∀ state : Protocol2Worker,
      state.toSourceTable = { start.toSourceTable with
        bound := start.bound.erase payload.sourceId } →
      state.toSessions = start.toSessions →
      Leaves (do
          whenSome bound.receipt fun receipt => modify fun worker => { worker with
            receiptSources := worker.receiptSources.erase receipt.receiptId }
          perform outside (.closeCartridge (some bound.access))
          pure payload.sourceId : Act Uuid) state (·.ReceiptsKept) := by
    intro state table sessions
    rw [Leaves, leads_bind, leads_whenSome]
    constructor
    · intro unvalidated
      have free : start.receiptIdOf payload.sourceId = none := by
        simp [SourceTable.receiptIdOf, found, unvalidated]
      have done : state.ReceiptsKept := by
        rw [Protocol2Worker.ReceiptsKept, table, sessions]
        exact kept.erase_unvalidated free
      rw [leads_bind, leads_perform]
      exact ⟨fun _ _ => done, fun _ _ => done⟩
    · intro receipt validated
      have holds : start.receiptIdOf payload.sourceId = some receipt.receiptId := by
        simp [SourceTable.receiptIdOf, found, validated]
      rw [leads_modify, leads_bind, leads_perform]
      have done : ReceiptsKept { bound := state.bound
                                 receiptSources := state.receiptSources.erase receipt.receiptId }
          state.toSessions.sources := by
        rw [table, sessions]
        exact kept.erase holds unused
      exact ⟨fun _ _ => done, fun _ _ => done⟩
  rw [leads_whenSome]
  constructor
  · exact fun _ => rest _ rfl rfl
  · intro handle opened
    rw [leads_perform]
    refine ⟨fun _ _ => rest _ rfl rfl, fun _ failed => ?_⟩
    by_cases unvalidated : bound.receipt = none
    · have free : start.receiptIdOf payload.sourceId = none := by
        simp [SourceTable.receiptIdOf, found, unvalidated]
      exact kept.erase_unvalidated free
    · have answered := closes bound handle found opened unvalidated
      rw [answered] at failed
      cases failed

theorem profileInspect_keeps (payload : Control.ProfileInspect) (kept : start.ReceiptsKept) :
    Leaves (profileInspect outside payload) start (·.ReceiptsKept) := by
  rw [profileInspect]
  refine leads_read (fun _ _ => ?_) fun _ _ => kept
  refine leads_read (fun bound _ => ?_) fun _ _ => kept
  refine leads_demanded (fun _ => ?_) fun _ => kept
  rw [leads_bind, leads_perform]
  refine ⟨fun inspection _ => ?_, fun _ _ => kept⟩
  refine leads_checked (fun _ _ => ?_) fun _ _ => kept
  refine leads_demanded (fun _ => ?_) fun _ => kept
  exact kept.of_equal rfl (receiptIdOf_update start.toSourceTable payload.sourceId fun _ => rfl)

/-- No receipt that the worker accepts is issued for a source that already holds one. -/
def ValidatesOnce (outside : Outside) (worker : Protocol2Worker)
    (payload : Control.ProfileValidate) : Prop :=
  ∀ bound inspection selected receipt, worker.bound.lookup payload.sourceId = some bound →
    bound.receipt ≠ none → bound.inspection = some inspection →
    inspection.profileKey = profileKey payload.expectedProfile →
    worker.selectedCodec = .ok selected →
    outside.answer (.validateProfile bound.access inspection) = .ok receipt →
    worker.checkReceipt payload selected.2 inspection receipt ≠ .ok ()

/-- A fresh receipt goes to a source that holds none. -/
theorem ReceiptsKept.validated (kept : ReceiptsKept table sources)
    (found : table.bound.lookup sourceId = some bound) (unvalidated : bound.receipt = none)
    (fresh : table.receiptSources.lookup receipt.receiptId = none) :
    ReceiptsKept
      { bound := table.bound.update sourceId fun bound => { bound with receipt := some receipt }
        receiptSources := table.receiptSources.insert receipt.receiptId sourceId } sources := by
  have gained := receiptIdOf_validated table found receipt
  have free : table.receiptIdOf sourceId = none := by
    simp [SourceTable.receiptIdOf, found, unvalidated]
  constructor
  · show (table.receiptSources.insert _ _).Inverts
      ({ table with bound := table.bound.update sourceId fun bound =>
        { bound with receipt := some receipt } } : SourceTable).receiptIdOf
    rw [gained]
    exact kept.indexed.insert fresh free
  · intro source member
    have holds := kept.held source member
    have other : source.sourceId ≠ sourceId := by
      intro same
      rw [same, free] at holds
      cases holds
    show ({ table with bound := table.bound.update sourceId fun bound =>
        { bound with receipt := some receipt } } : SourceTable).receiptIdOf _ = _
    rw [gained, Function.update_of_ne other]
    exact holds

/-- `profile.validate` gives a receipt to a source that holds none. -/
theorem profileValidate_keeps (payload : Control.ProfileValidate)
    (kept : start.ReceiptsKept) (once : ValidatesOnce outside start payload) :
    Leaves (profileValidate outside payload) start (·.ReceiptsKept) := by
  rw [profileValidate]
  refine leads_read (fun selected chosen => ?_) fun _ _ => kept
  refine leads_read (fun bound required => ?_) fun _ _ => kept
  refine leads_checked (fun inspection inspected => ?_) fun _ _ => kept
  refine leads_checked (fun _ _ => ?_) fun _ _ => kept
  refine leads_demanded (fun expected => ?_) fun _ => kept
  rw [leads_bind, leads_perform]
  refine ⟨fun receipt answered => ?_, fun _ _ => kept⟩
  refine leads_read (fun _ checked => ?_) fun _ _ => kept
  have found := lookup_of_requireBound required
  have unvalidated : bound.receipt = none := by
    by_contra validated
    exact once bound inspection selected receipt found validated
      (inspection_of_require inspected) expected chosen answered checked
  exact kept.validated found unvalidated (fresh_of_checkReceipt checked)

/-- Two workers say the same about receipts and hold the same session. -/
structure SameReceipts (before after : Protocol2Worker) : Prop where
  index : after.receiptSources = before.receiptSources
  holds : after.receiptIdOf = before.receiptIdOf
  sessions : after.toSessions = before.toSessions

theorem SameReceipts.handles {first second third : Protocol2Worker}
    (same : SameReceipts first second) (changed : handlePart.allows second third) :
    SameReceipts first third := by
  have later := handlePart_receipts changed
  exact ⟨later.1.trans same.index, later.2.1.trans same.holds, later.2.2.trans same.sessions⟩

theorem SameReceipts.kept {after : Protocol2Worker} (same : SameReceipts before after)
    (kept : before.ReceiptsKept) : after.ReceiptsKept := by
  rw [Protocol2Worker.ReceiptsKept, same.sessions]
  exact kept.of_equal same.index same.holds

/-- A binding that is exact names the receipt that its source holds. -/
theorem receiptIdOf_exact {source : SourceBinding} {capability : Control.Capability}
    (found : table.bound.lookup source.sourceId = some bound)
    (exact_ : bound.exactReceipt source capability = .ok receipt) :
    table.receiptIdOf source.sourceId = some source.profileReceiptId := by
  unfold BoundCartridge.exactReceipt at exact_
  cases holds : bound.receipt with
  | none =>
    rw [holds] at exact_
    exact nomatch exact_
  | some held =>
    simp only [holds] at exact_
    rw [Fallible.guarded_eq_ok] at exact_
    have same : held.receiptId = source.profileReceiptId := by
      by_contra other
      exact exact_.1 (.inr (.inr (.inl other)))
    simp [SourceTable.receiptIdOf, found, holds, same]

/-- A source that is opened holds the receipt that its binding names. -/
theorem openSource_leads (source : SourceBinding) (capability : Control.Capability)
    {start state : Protocol2Worker} (same : SameReceipts start state) :
    Leads (openSource outside source capability) state
      (fun _ state => SameReceipts start state ∧
        start.receiptIdOf source.sourceId = some source.profileReceiptId)
      (fun _ state => SameReceipts start state) := by
  have handles := (openSource_within outside source capability state).mono
    (fun _ _ changed => same.handles changed) (fun _ _ changed => same.handles changed)
  have exact_ : Leads (openSource outside source capability) state
      (fun _ _ => state.receiptIdOf source.sourceId = some source.profileReceiptId)
      (fun _ _ => True) := by
    rw [openSource]
    refine leads_read (fun _ _ => ?_) fun _ _ => trivial
    refine leads_read (fun bound required => ?_) fun _ _ => trivial
    refine leads_checked (fun receipt exact_ => ?_) fun _ _ => trivial
    have holds := receiptIdOf_exact (lookup_of_requireBound required) exact_
    rw [leads_iff]
    exact ⟨fun _ _ _ => holds, fun _ _ _ => trivial⟩
  refine (handles.and exact_).mono (fun _ _ both => ⟨both.1, ?_⟩) (fun _ _ both => both.1)
  rw [← same.holds]
  exact both.2

theorem vacant_of_admitted {worker : Protocol2Worker} {sessionId : Uuid}
    (admitted : worker.admitWorkerSession sessionId = .ok ()) :
    worker.player = none ∧ worker.deck = none := by
  unfold Protocol2Worker.admitWorkerSession at admitted
  rw [Fallible.guarded_eq_ok] at admitted
  cases player : worker.player with
  | some found =>
    simp [player] at admitted
  | none =>
    cases deck : worker.deck with
    | some found => simp [player, deck] at admitted
    | none => exact ⟨rfl, rfl⟩

/-- `player.open` opens a player on a source that holds the receipt of its binding. -/
theorem playerOpen_keeps (payload : Control.PlayerOpen) (kept : start.ReceiptsKept) :
    Leaves (playerOpen outside payload) start (·.ReceiptsKept) := by
  rw [playerOpen]
  refine leads_read (fun _ _ => ?_) fun _ _ => kept
  refine leads_read (fun _ admitted => ?_) fun _ _ => kept
  refine leads_checked (fun source _ => ?_) fun _ _ => kept
  refine (openSource_leads outside source .player ⟨rfl, rfl, rfl⟩).bind
    (fun _ state opened => ?_) (fun _ state same => same.kept kept)
  rw [leads_bind, leads_modify, leads_pure]
  have vacant := vacant_of_admitted admitted
  have indexed := (opened.1.kept kept).indexed
  have deck : state.deck = none := by
    have same := congrArg Sessions.deck opened.1.sessions
    exact same.trans vacant.2
  refine ⟨indexed, fun other member => ?_⟩
  simp only [Sessions.sources, deck, Option.elim_none, List.append_nil, Option.map_some,
    Option.toList_some, List.mem_singleton] at member
  rw [member]
  exact (congrFun opened.1.holds source.sourceId).trans opened.2

/-- `deck.load` opens a deck on sources that hold the receipts of their bindings. -/
theorem deckLoad_keeps (payload : DeckLoad) (kept : start.ReceiptsKept) :
    Leaves (deckLoad outside payload) start (·.ReceiptsKept) := by
  rw [deckLoad]
  refine leads_read (fun _ _ => ?_) fun _ _ => kept
  refine leads_read (fun _ admitted => ?_) fun _ _ => kept
  have same : SameReceipts start start := ⟨rfl, rfl, rfl⟩
  refine (loadDeckOperator_within outside payload start).bind (fun operator state changed => ?_)
    (fun _ _ changed => (same.handles changed).kept kept)
  have loaded := same.handles changed
  refine leads_checked (fun sources _ => ?_) fun _ _ => loaded.kept kept
  refine (leads_each (fun source _ before => (openSource_leads outside source .realtime before).mono
    (fun _ _ opened => opened) (fun _ _ before => before.kept kept)) sources state loaded).bind
    (fun receipts state opened => ?_) (fun _ _ failed => failed)
  have still := opened.1.kept kept
  refine leads_checked (fun _ _ => ?_) fun _ _ => still
  refine leads_checked (fun _ _ => ?_) fun _ _ => still
  refine leads_checked (fun controls _ => ?_) fun _ _ => still
  rw [leads_bind, leads_modify, leads_pure]
  have vacant := vacant_of_admitted admitted
  have player : state.player = none := by
    have same := congrArg Sessions.player opened.1.sessions
    exact same.trans vacant.1
  refine ⟨still.indexed, fun source member => ?_⟩
  simp only [Sessions.sources, player, Option.map_none, Option.toList_none, List.nil_append,
    Option.elim_some] at member
  obtain ⟨receipt, -, holds⟩ := exists_of_forall₂ opened.2 source member
  exact (congrFun opened.1.holds source.sourceId).trans holds

/-- `codec.unload` takes all receipts and the session away. -/
theorem codecUnload_keeps (payload : Control.CodecUnload) (kept : start.ReceiptsKept) :
    Leaves (codecUnload outside payload) start (·.ReceiptsKept) := by
  rw [Leaves, codecUnload, leads_bind, leads_require]
  refine ⟨fun _ => ?_, fun _ => kept⟩
  refine (abortAllRawImports_within outside start).bind (fun _ state changed => ?_)
    (fun _ _ changed => importPart_keeps _ _ changed kept)
  have still := importPart_keeps _ _ changed kept
  refine (closeHandles_within outside state).bind (fun _ state changed => ?_)
    (fun _ _ changed => handlePart_keeps _ _ changed still)
  rw [leads_modify]
  refine ReceiptsKept.without_session (Dict.inverts_empty fun sourceId => ?_)
  unfold SourceTable.receiptIdOf
  rw [Dict.lookup_mapValues]
  cases state.bound.lookup sourceId <;> rfl

/-- The commands under which receipts are kept: no shutdown, no second validation of a source, no
handle that fails to close. -/
structure Orderly (outside : Outside) (worker : Protocol2Worker) (command : Command) : Prop where
  running : command.name ≠ .sessionShutdown
  once : ∀ payload, command = .profileValidate payload → ValidatesOnce outside worker payload
  closes : ∀ payload, command = .sourceClose payload →
    ClosesCleanly outside worker payload.sourceId

theorem operation_keeps (command : Command) (kept : start.ReceiptsKept)
    (orderly : Orderly outside start command) :
    Leaves (operation outside command) start (·.ReceiptsKept) := by
  have framed : KeepsReceipts command.part →
      Leaves (operation outside command) start (·.ReceiptsKept) := fun keeps =>
    (operation_within outside command start).mono (fun _ _ changed => keeps _ _ changed kept)
      (fun _ _ changed => keeps _ _ changed kept)
  unfold Leaves
  cases command with
  | sessionShutdown request => exact absurd rfl orderly.running
  | codecUnload request =>
    rw [operation, leads_bind]
    exact codecUnload_keeps outside request kept
  | sourceOpen request =>
    rw [operation, leads_map]
    exact sourceOpen_keeps outside request kept
  | sourceClose request =>
    rw [operation, leads_map]
    exact sourceClose_keeps outside request kept (orderly.closes request rfl)
  | profileInspect request =>
    rw [operation, leads_map]
    exact profileInspect_keeps outside request kept
  | profileValidate request =>
    rw [operation, leads_map]
    exact profileValidate_keeps outside request kept (orderly.once request rfl)
  | playerOpen request =>
    rw [operation, leads_map]
    exact playerOpen_keeps outside request kept
  | deckLoad request =>
    rw [operation, leads_map]
    exact deckLoad_keeps outside request kept
  | sessionConfigure _ | codecDescriptor _ | codecLoad _ => exact framed codecPart_keeps
  | rawImportPreflight _ | rawImportStage _ | rawImportAbort _ => exact framed importPart_keeps
  | ringConfigure _ | ringRelease _ => exact framed ringPart_keeps
  | playerStep _ | playerReset _ | deckProcess _ | deckReset _ | deckRestart _ =>
    exact framed sessionPart_keeps
  | _ => exact framed settingPart_keeps

end LatentDeck.CodecHost
