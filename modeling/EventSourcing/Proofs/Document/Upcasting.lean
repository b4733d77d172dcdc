import EventSourcing.Document.Upcaster

/-!
# Upcasting stage by stage

A chain follows one document at a time through all its upcasters.  It writes the same as
when every upcaster in turn goes through all documents, unless one of them fails, and then
both fail (`UpcasterChain.upcast_eq_ok_iff_stages`).  A record of who looks at which document
(`UpcasterChain.watch`) shows that what an upcaster has written is looked at only by the
upcasters behind it.
-/

namespace EventSourcing

namespace UpcasterChain

variable {context : UpcastContext} {documents written : List Document} {document : Document}

/-! ## Rewriting in place -/

/-- What can be written for one document. -/
abbrev Rewriting := Document → Except DocumentError (List Document)

/-- Replaces every document by what is written for it. -/
def inPlace (rewriting : Rewriting) (documents : List Document) :
    Except DocumentError (List Document) :=
  List.flatten <$> documents.mapM rewriting

variable {rewriting next : Rewriting}

@[simp] theorem inPlace_nil (rewriting : Rewriting) : inPlace rewriting [] = .ok [] := rfl

theorem inPlace_cons (rewriting : Rewriting) (document : Document) (rest : List Document) :
    inPlace rewriting (document :: rest) =
      match rewriting document with
      | .error error => .error error
      | .ok written => (written ++ ·) <$> inPlace rewriting rest := by
  unfold inPlace
  rw [List.mapM_cons]
  cases rewriting document with
  | error error => rfl
  | ok written => cases rest.mapM rewriting <;> rfl

theorem inPlace_singleton (rewriting : Rewriting) (document : Document) :
    inPlace rewriting [document] = rewriting document := by
  rw [inPlace_cons]
  cases rewriting document with
  | error error => rfl
  | ok written => exact congrArg Except.ok (List.append_nil written)

theorem inPlace_cons_eq_ok_iff {rest : List Document} :
    inPlace rewriting (document :: rest) = .ok written ↔
      ∃ first others, rewriting document = .ok first ∧ inPlace rewriting rest = .ok others ∧
        first ++ others = written := by
  rw [inPlace_cons]
  cases rewriting document with
  | error error => simp
  | ok first => cases inPlace rewriting rest <;> simp [Functor.map, Except.map]

theorem inPlace_append_eq_ok_iff {front back : List Document} :
    inPlace rewriting (front ++ back) = .ok written ↔
      ∃ first others, inPlace rewriting front = .ok first ∧ inPlace rewriting back = .ok others ∧
        first ++ others = written := by
  induction front generalizing written with
  | nil => simp
  | cons document rest ih =>
    simp only [List.cons_append, inPlace_cons_eq_ok_iff, ih]
    constructor
    · rintro ⟨first, -, isFirst, ⟨middle, last, isMiddle, isLast, rfl⟩, rfl⟩
      exact ⟨first ++ middle, last, ⟨first, middle, isFirst, isMiddle, rfl⟩, isLast,
        List.append_assoc first middle last⟩
    · rintro ⟨-, last, ⟨first, middle, isFirst, isMiddle, rfl⟩, isLast, rfl⟩
      exact ⟨first, middle ++ last, isFirst, ⟨middle, last, isMiddle, isLast, rfl⟩,
        (List.append_assoc first middle last).symm⟩

theorem bind_eq_ok_iff {attempt : Except DocumentError (List Document)}
    {further : List Document → Except DocumentError (List Document)} :
    attempt >>= further = .ok written ↔
      ∃ middle, attempt = .ok middle ∧ further middle = .ok written := by
  cases attempt <;> simp [bind, Except.bind]

/-- Rewriting every document twice before the next one comes to the same as rewriting all
documents and then all that is written, but for the failure that is met first. -/
theorem inPlace_inPlace_eq_ok_iff :
    (∃ middle, inPlace rewriting documents = .ok middle ∧ inPlace next middle = .ok written) ↔
      inPlace (fun document => rewriting document >>= inPlace next) documents = .ok written := by
  induction documents generalizing written with
  | nil => simp
  | cons document rest ih =>
    rw [inPlace_cons_eq_ok_iff]
    constructor
    · rintro ⟨middle, isMiddle, isWritten⟩
      obtain ⟨first, others, isFirst, isOthers, rfl⟩ := inPlace_cons_eq_ok_iff.mp isMiddle
      obtain ⟨front, back, isFront, isBack, rfl⟩ := inPlace_append_eq_ok_iff.mp isWritten
      exact ⟨front, back, bind_eq_ok_iff.mpr ⟨first, isFirst, isFront⟩,
        ih.mp ⟨others, isOthers, isBack⟩, rfl⟩
    · rintro ⟨front, back, isFront, isBack, rfl⟩
      obtain ⟨first, isFirst, becomesFront⟩ := bind_eq_ok_iff.mp isFront
      obtain ⟨others, isOthers, becomesBack⟩ := ih.mpr isBack
      exact ⟨first ++ others, inPlace_cons_eq_ok_iff.mpr ⟨first, others, isFirst, isOthers, rfl⟩,
        inPlace_append_eq_ok_iff.mpr ⟨front, back, becomesFront, becomesBack, rfl⟩⟩

/-! ## Stages -/

/-- What one upcaster writes for a document. -/
def rewrite (context : UpcastContext) (upcaster : Upcaster) : Rewriting := fun document =>
  if upcaster.accepts document.type then upcaster.upcast context document else .ok [document]

theorem stage_eq_inPlace (context : UpcastContext) (upcaster : Upcaster)
    (documents : List Document) :
    stage context upcaster documents = inPlace (rewrite context upcaster) documents := rfl

/-- The first upcaster writes, and the others rewrite what it has written. -/
theorem upcast_cons (context : UpcastContext) (upcaster : Upcaster) (rest : UpcasterChain)
    (document : Document) :
    upcast context (upcaster :: rest) document =
      rewrite context upcaster document >>= inPlace (upcast context rest) := by
  by_cases accepts : upcaster.accepts document.type = true
  · simp only [upcast, rewrite, accepts, ↓reduceIte]
    cases upcaster.upcast context document <;> rfl
  · simp only [upcast, rewrite, accepts]
    exact (inPlace_singleton (upcast context rest) document).symm

theorem inPlace_upcast_eq_ok_iff (context : UpcastContext) (chain : UpcasterChain) :
    inPlace (upcast context chain) documents = .ok written ↔
      upcastInStages context chain documents = .ok written := by
  induction chain generalizing documents with
  | nil =>
    have same : inPlace (upcast context []) documents = .ok documents := by
      induction documents with
      | nil => rfl
      | cons document rest ih => exact inPlace_cons_eq_ok_iff.mpr ⟨[document], rest, rfl, ih, rfl⟩
    rw [same]
    rfl
  | cons upcaster rest ih =>
    have stages : upcastInStages context (upcaster :: rest) documents =
        stage context upcaster documents >>= upcastInStages context rest := List.foldlM_cons
    rw [stages, bind_eq_ok_iff, funext (upcast_cons context upcaster rest),
      ← inPlace_inPlace_eq_ok_iff]
    exact exists_congr fun middle => and_congr_right fun _ => ih

/-- A chain writes what its upcasters write when each of them in turn goes through all
documents. -/
theorem upcast_eq_ok_iff_stages (context : UpcastContext) (chain : UpcasterChain) :
    upcast context chain document = .ok written ↔
      upcastInStages context chain [document] = .ok written := by
  rw [← inPlace_upcast_eq_ok_iff, inPlace_singleton]

theorem upcast_append_eq_ok_iff (context : UpcastContext) (front back : UpcasterChain) :
    upcast context (front ++ back) document = .ok written ↔
      ∃ middle, upcast context front document = .ok middle ∧
        inPlace (upcast context back) middle = .ok written := by
  have stages : upcastInStages context (front ++ back) [document] =
      upcastInStages context front [document] >>= upcastInStages context back :=
    List.foldlM_append
  rw [upcast_eq_ok_iff_stages, stages, bind_eq_ok_iff]
  exact exists_congr fun middle => and_congr (upcast_eq_ok_iff_stages context front).symm
    (inPlace_upcast_eq_ok_iff context back).symm

/-! ## Who looks at what -/

/-- An upcaster, by its place in the chain, looks at a document, which another one has
written or which is the stored one. -/
structure Look where
  place : Nat
  writer : Option Nat
  document : Document

/-- Watches the rewriting of documents, one after another, up to the first failure. -/
def watchAll (watched : Document → List Look × Except DocumentError (List Document)) :
    List Document → List Look × Except DocumentError (List Document)
  | [] => ([], .ok [])
  | document :: rest =>
    match watched document with
    | (looks, .error error) => (looks, .error error)
    | (looks, .ok written) =>
      let (more, result) := watchAll watched rest
      (looks ++ more, (written ++ ·) <$> result)

/-- Follows a document through a chain, whose first upcaster is at the given place, and
records every look.  The result is that of the chain. -/
def watch (context : UpcastContext) (writer : Option Nat) (place : Nat) :
    UpcasterChain → Document → List Look × Except DocumentError (List Document)
  | [], document => ([], .ok [document])
  | upcaster :: rest, document =>
    let look : Look := { place, writer, document }
    if upcaster.accepts document.type then
      match upcaster.upcast context document with
      | .ok documents =>
        let (looks, result) := watchAll (watch context (some place) (place + 1) rest) documents
        (look :: looks, result)
      | .error error => ([look], .error error)
    else
      let (looks, result) := watch context writer (place + 1) rest document
      (look :: looks, result)

theorem mem_watchAll {watched : Document → List Look × Except DocumentError (List Document)}
    {look : Look} (looked : look ∈ (watchAll watched documents).1) :
    ∃ document ∈ documents, look ∈ (watched document).1 := by
  induction documents with
  | nil => exact absurd looked List.not_mem_nil
  | cons document rest ih =>
    rcases outcome : watched document with ⟨looks, error | written⟩
    · simp only [watchAll, outcome] at looked
      exact ⟨document, List.mem_cons_self, by rwa [outcome]⟩
    · simp only [watchAll, outcome, List.mem_append] at looked
      rcases looked with now | later
      · exact ⟨document, List.mem_cons_self, by rwa [outcome]⟩
      · obtain ⟨other, isLater, sees⟩ := ih later
        exact ⟨other, List.mem_cons_of_mem _ isLater, sees⟩

/-- What is written depends only on what is looked at. -/
theorem watchAll_congr {watched : Document → List Look × Except DocumentError (List Document)}
    {Agreed : Look → Prop}
    (agrees : ∀ document, (∀ look ∈ (watched document).1, Agreed look) →
      rewriting document = (watched document).2)
    (agreed : ∀ look ∈ (watchAll watched documents).1, Agreed look) :
    inPlace rewriting documents = (watchAll watched documents).2 := by
  induction documents with
  | nil => rfl
  | cons document rest ih =>
    rcases outcome : watched document with ⟨looks, error | written⟩
    · simp only [watchAll, outcome] at agreed
      have same := agrees document (by rwa [outcome])
      rw [outcome] at same
      simp only [inPlace_cons, same, watchAll, outcome]
    · simp only [watchAll, outcome, List.mem_append] at agreed
      have same := agrees document (by rw [outcome]; exact fun look now => agreed look (.inl now))
      rw [outcome] at same
      simp only [inPlace_cons, same, watchAll, outcome,
        ih fun look later => agreed look (.inr later)]

/-- An upcaster writes a document for another one. -/
def Writes (context : UpcastContext) (upcaster : Upcaster) (document : Document) : Prop :=
  ∃ source written, upcaster.accepts source.type = true ∧
    upcaster.upcast context source = .ok written ∧ document ∈ written

/-- Where a document that is looked at comes from: it is the one that the chain has been
given, or an upcaster of the chain in front of the one that looks at it has written it. -/
structure ComesFromFront (context : UpcastContext) (writer : Option Nat) (first : Nat)
    (chain : UpcasterChain) (document : Document) (look : Look) : Prop where
  first_le : first ≤ look.place
  origin : (look.writer = writer ∧ look.document = document) ∨
    ∃ offset, look.writer = some (first + offset) ∧ first + offset < look.place ∧
      ∃ upcaster ∈ chain[offset]?, Writes context upcaster look.document

theorem ComesFromFront.behind {writer : Option Nat} {first : Nat} {rest : UpcasterChain}
    {look : Look} (comes : ComesFromFront context writer (first + 1) rest document look)
    (upcaster : Upcaster) :
    ComesFromFront context writer first (upcaster :: rest) document look where
  first_le := Nat.le_of_succ_le comes.first_le
  origin := by
    refine comes.origin.imp_right ?_
    rintro ⟨offset, isWriter, isBehind, writes⟩
    refine ⟨offset + 1, ?_, ?_, writes⟩
    · rw [isWriter, Nat.add_right_comm, Nat.add_assoc]
    · omega

theorem watch_comesFromFront (writer : Option Nat) (place : Nat) (chain : UpcasterChain)
    (document : Document) :
    ∀ look ∈ (watch context writer place chain document).1,
      ComesFromFront context writer place chain document look := by
  induction chain generalizing writer place document with
  | nil => exact fun _ looked => absurd looked List.not_mem_nil
  | cons upcaster rest ih =>
    have own : ComesFromFront context writer place (upcaster :: rest) document
        ⟨place, writer, document⟩ := ⟨Nat.le_refl place, .inl ⟨rfl, rfl⟩⟩
    intro look looked
    by_cases accepts : upcaster.accepts document.type = true
    · cases rewritten : upcaster.upcast context document with
      | error error =>
        simp only [watch, accepts, ↓reduceIte, rewritten, List.mem_singleton] at looked
        exact looked ▸ own
      | ok documents =>
        simp only [watch, accepts, ↓reduceIte, rewritten, List.mem_cons] at looked
        rcases looked with rfl | later
        · exact own
        -- What this upcaster has written is followed through the rest of the chain.
        obtain ⟨source, isWritten, sees⟩ := mem_watchAll later
        have comes := ih (some place) (place + 1) source look sees
        rcases comes.origin with ⟨isWriter, rfl⟩ | written
        · exact ⟨Nat.le_of_succ_le comes.first_le, .inr ⟨0, isWriter, comes.first_le, upcaster,
            rfl, document, documents, accepts, rewritten, isWritten⟩⟩
        · have further : ComesFromFront context writer (place + 1) rest document look :=
            ⟨comes.first_le, .inr written⟩
          exact further.behind upcaster
    · simp only [watch, accepts, Bool.false_eq_true, ↓reduceIte, List.mem_cons] at looked
      rcases looked with rfl | later
      · exact own
      · exact (ih writer (place + 1) document look later).behind upcaster

/-! ## The record is complete -/

/-- Two upcasters do the same with a document. -/
structure Alike (context : UpcastContext) (document : Document) (upcaster other : Upcaster) :
    Prop where
  accepts : other.accepts document.type = upcaster.accepts document.type
  upcast : other.upcast context document = upcaster.upcast context document

/-- The upcasters that two chains have at the place of a look do the same with what is
looked at. -/
def AgreeOn (context : UpcastContext) (chain other : UpcasterChain) (first : Nat) (look : Look) :
    Prop :=
  ∀ offset, look.place = first + offset →
    ∀ upcaster ∈ chain[offset]?, ∀ twin ∈ other[offset]?,
      Alike context look.document upcaster twin

theorem AgreeOn.behind {chain other : UpcasterChain} {upcaster twin : Upcaster} {first : Nat}
    {look : Look} (agree : AgreeOn context (upcaster :: chain) (twin :: other) first look) :
    AgreeOn context chain other (first + 1) look :=
  fun offset isPlace => agree (offset + 1) (by omega)

/-- A chain of the same length that does the same wherever somebody looks writes the same. -/
theorem upcast_eq_watch (writer : Option Nat) (place : Nat) {chain other : UpcasterChain}
    (sameLength : other.length = chain.length)
    (agree : ∀ look ∈ (watch context writer place chain document).1,
      AgreeOn context chain other place look) :
    upcast context other document = (watch context writer place chain document).2 := by
  induction chain generalizing writer place document other with
  | nil =>
    obtain rfl := List.length_eq_zero_iff.mp sameLength
    rfl
  | cons upcaster rest ih =>
    obtain ⟨twin, others, rfl⟩ := List.exists_cons_of_length_eq_add_one sameLength
    have restLength := Nat.succ.inj sameLength
    have own (looked : ⟨place, writer, document⟩ ∈
        (watch context writer place (upcaster :: rest) document).1) :
        Alike context document upcaster twin :=
      agree _ looked 0 rfl upcaster rfl twin rfl
    by_cases accepts : upcaster.accepts document.type = true
    · cases rewritten : upcaster.upcast context document with
      | error error =>
        simp only [watch, accepts, ↓reduceIte, rewritten] at own ⊢
        have alike := own List.mem_cons_self
        simp only [upcast, alike.accepts, accepts, ↓reduceIte, alike.upcast, rewritten]
      | ok documents =>
        simp only [watch, accepts, ↓reduceIte, rewritten] at own agree ⊢
        have alike := own List.mem_cons_self
        simp only [upcast, alike.accepts, accepts, ↓reduceIte, alike.upcast, rewritten]
        refine watchAll_congr (fun source seen => ih (some place) (place + 1) restLength seen)
          fun look later => ?_
        exact (agree look (List.mem_cons_of_mem _ later)).behind
    · simp only [watch, accepts, Bool.false_eq_true, ↓reduceIte] at own agree ⊢
      have alike := own List.mem_cons_self
      simp only [upcast, alike.accepts, accepts, Bool.false_eq_true, ↓reduceIte]
      exact ih writer (place + 1) restLength fun look later =>
        (agree look (List.mem_cons_of_mem _ later)).behind

/-- A chain writes documents exactly if its upcasters do when each of them in turn goes
through all documents, and then it writes the same.  Hence a chain in front of another one
writes what the other one makes of each document in turn, and the empty chain leaves a
document as it is.  Nobody looks at a document but upcasters behind the one that has
written it; that these are all looks is said by the last part, in which upcasters may be
exchanged for any that do the same with what they look at. -/
theorem upcast_stageByStage (context : UpcastContext) (chain : UpcasterChain)
    (document : Document) :
    let (looks, result) := watch context none 0 chain document
    (∀ written, upcast context chain document = .ok written ↔
      upcastInStages context chain [document] = .ok written) ∧
    (∀ back written, upcast context (chain ++ back) document = .ok written ↔
      ∃ middle, upcast context chain document = .ok middle ∧
        List.flatten <$> middle.mapM (upcast context back) = .ok written) ∧
    upcast context [] document = .ok [document] ∧
    result = upcast context chain document ∧
    (∀ look ∈ looks, (look.writer = none ∧ look.document = document) ∨
      ∃ writer, look.writer = some writer ∧ writer < look.place ∧
        ∃ upcaster ∈ chain[writer]?, Writes context upcaster look.document) ∧
    ∀ other : UpcasterChain, other.length = chain.length →
      (∀ look ∈ looks, ∀ upcaster ∈ chain[look.place]?, ∀ twin ∈ other[look.place]?,
        Alike context look.document upcaster twin) →
      upcast context other document = upcast context chain document := by
  have atPlace (other : UpcasterChain) (look : Look)
      (alike : ∀ upcaster ∈ chain[look.place]?, ∀ twin ∈ other[look.place]?,
        Alike context look.document upcaster twin) : AgreeOn context chain other 0 look := by
    intro offset isPlace
    rw [Nat.zero_add] at isPlace
    exact isPlace ▸ alike
  have sameResult : (watch context none 0 chain document).2 = upcast context chain document := by
    refine (upcast_eq_watch none 0 rfl fun look _ => atPlace chain look ?_).symm
    intro upcaster isUpcaster twin isTwin
    obtain rfl := Option.some.inj (isUpcaster.symm.trans isTwin)
    exact ⟨rfl, rfl⟩
  refine ⟨fun written => upcast_eq_ok_iff_stages context chain,
    fun back written => upcast_append_eq_ok_iff context chain back, rfl, sameResult, ?_, ?_⟩
  · intro look looked
    rcases (watch_comesFromFront none 0 chain document look looked).origin with
      stored | ⟨offset, isWriter, isBehind, writes⟩
    · exact .inl stored
    · rw [Nat.zero_add] at isWriter isBehind
      exact .inr ⟨offset, isWriter, isBehind, writes⟩
  · intro other sameLength alike
    have agree := fun look looked => atPlace other look (alike look looked)
    rw [upcast_eq_watch none 0 sameLength agree, sameResult]

end UpcasterChain

end EventSourcing
