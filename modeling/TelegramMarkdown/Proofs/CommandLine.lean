import TelegramMarkdown.CommandLine
import TelegramMarkdown.Proofs.Text.Utf8

/-!
What a run of the command line leaves behind.

A run either fails, and then it prints nothing and changes no file, or it delivers one text to
one place (`CommandLine.runIn_all_or_nothing`). The settings are those that the configuration
file describes; others take their place only where no file is named and none is there
(`CommandLine.Configures`).
-/

namespace TelegramMarkdown.CommandLine

/-! ### What a run reads -/

/-- Whether a file is there and describes settings: its bytes are a text, and the text is a
valid configuration. -/
inductive Describes : Reading → Settings → Prop where
  | content {t : Text} {s : Settings} :
    Settings.ofToml? t = some s → Describes (.content (Utf8.encode t)) s

/-- Whether a run has settings: those that the configuration file describes, or those that come
with the program if no file is named and there is none by the usual name. -/
inductive Configures (a : Arguments) (read : Text → Reading) : Settings → Prop where
  | file {s : Settings} : Describes (read (a.config.getD configFile)) s → Configures a read s
  | bundled : a.config = none → read configFile = .missing → Configures a read Settings.bundled

/-- Whether a run has a text to convert: the whole content of the input file, or all of standard
input if none is named. -/
inductive Supplies (a : Arguments) (read : Text → Reading) (stdin : Utf8.Bytes) : Text → Prop where
  | file {path t : Text} : a.input = some path → read path = .content (Utf8.encode t) →
      Supplies a read stdin t
  | stdin {t : Text} : a.input = none → stdin = Utf8.encode t → Supplies a read stdin t

theorem load_eq_ok_iff {r : Reading} {s : Settings} :
    Settings.load r = .ok s ↔ Describes r s := by
  constructor
  · intro loaded
    cases r with
    | missing | unreadable => cases loaded
    | content bytes =>
      rw [Settings.load] at loaded
      split at loaded
      case h_1 => cases loaded
      case h_2 t decoded =>
        split at loaded
        case h_1 valid =>
          cases loaded
          rw [← Utf8.encode_of_decode? decoded]
          exact .content valid
        case h_2 => cases loaded
  · rintro ⟨valid⟩
    rw [Settings.load, Utf8.decode?_encode]
    dsimp only
    rw [valid]

theorem load_eq_missing_iff {r : Reading} :
    Settings.load r = .error .missing ↔ r = .missing := by
  constructor
  · intro failed
    cases r with
    | missing => rfl
    | unreadable => cases failed
    | content bytes =>
      rw [Settings.load] at failed
      split at failed
      case h_1 => cases failed
      case h_2 => split at failed <;> cases failed
  · rintro rfl
    rfl

theorem loadOrBundled_eq_ok_iff {r : Reading} {s : Settings} :
    Settings.loadOrBundled r = .ok s ↔ Describes r s ∨ r = .missing ∧ s = Settings.bundled := by
  rw [Settings.loadOrBundled]
  split
  case h_1 missing =>
    obtain rfl := load_eq_missing_iff.mp missing
    constructor
    · intro same
      exact .inr ⟨rfl, (Except.ok.inj same).symm⟩
    · rintro (⟨⟨⟩⟩ | ⟨-, same⟩)
      rw [same]
  case h_2 present =>
    rw [load_eq_ok_iff, or_iff_left]
    exact fun missing => present (load_eq_missing_iff.mpr missing.1)

theorem mapError_eq_ok_iff {ε ε' α : Type} {f : ε → ε'} {x : Except ε α} {v : α} :
    x.mapError f = .ok v ↔ x = .ok v := by
  cases x with
  | error e => exact iff_of_false nofun nofun
  | ok w =>
    constructor
    · rintro ⟨⟩
      rfl
    · rintro ⟨⟩
      rfl

section

variable {a : Arguments} {read : Text → Reading} {stdin : Utf8.Bytes}

theorem settings_eq_ok_iff {s : Settings} : settings a read = .ok s ↔ Configures a read s := by
  rw [settings]
  split
  case h_1 path named =>
    rw [mapError_eq_ok_iff, load_eq_ok_iff]
    constructor
    · intro describes
      exact .file (by rwa [named])
    · rintro (describes | ⟨unnamed, -⟩)
      · rwa [named] at describes
      · rw [named] at unnamed
        cases unnamed
  case h_2 unnamed =>
    rw [mapError_eq_ok_iff, loadOrBundled_eq_ok_iff]
    constructor
    · rintro (describes | ⟨missing, same⟩)
      · exact .file (by rwa [unnamed])
      · rw [same]
        exact .bundled unnamed missing
    · rintro (describes | ⟨-, missing⟩)
      · rw [unnamed] at describes
        exact .inl describes
      · exact .inr ⟨missing, rfl⟩

theorem markdown_eq_ok_iff {t : Text} :
    markdown a read stdin = .ok t ↔ Supplies a read stdin t := by
  constructor
  · intro supplied
    rw [markdown] at supplied
    split at supplied
    case h_1 unnamed =>
      split at supplied
      case h_1 decoded =>
        obtain rfl := Except.ok.inj supplied
        exact .stdin unnamed (Utf8.encode_of_decode? decoded).symm
      case h_2 => cases supplied
    case h_2 path named =>
      split at supplied
      case h_1 bytes present =>
        split at supplied
        case h_1 decoded =>
          obtain rfl := Except.ok.inj supplied
          rw [← Utf8.encode_of_decode? decoded] at present
          exact .file named present
        case h_2 => cases supplied
      case h_2 => cases supplied
  · rintro (⟨named, whole⟩ | ⟨unnamed, rfl⟩)
    · rw [markdown, named]
      dsimp only
      rw [whole]
      dsimp only
      rw [Utf8.decode?_encode]
    · rw [markdown, unnamed]
      dsimp only
      rw [Utf8.decode?_encode]

theorem Configures.unique {s s' : Settings} (h : Configures a read s)
    (h' : Configures a read s') : s = s' := by
  rw [← settings_eq_ok_iff] at h h'
  exact Except.ok.inj (h.symm.trans h')

theorem Supplies.unique {t t' : Text} (h : Supplies a read stdin t)
    (h' : Supplies a read stdin t') : t = t' := by
  rw [← markdown_eq_ok_iff] at h h'
  exact Except.ok.inj (h.symm.trans h')

theorem evaluate_eq_ok_iff {text : Text} :
    evaluate a read stdin = .ok text ↔
      ∃ s t, Configures a read s ∧ Supplies a read stdin t ∧ result a s t = text := by
  simp only [← settings_eq_ok_iff, ← markdown_eq_ok_iff, evaluate]
  cases settings a read with
  | error failure => simp [bind, Except.bind]
  | ok s =>
    cases markdown a read stdin with
    | error failure => simp [bind, Except.bind]
    | ok t => simp [bind, Except.bind, pure, Except.pure]

end

/-! ### What a run leaves -/

section

variable {Dir : Type} (system : FileSystem Dir)

/-- Whether a run puts a text in one place: it prints the text and changes no file, or it prints
nothing and writes the output file, and no other. -/
inductive Delivers (a : Arguments) (d : Dir) (text : Text) (o : Outcome Dir) : Prop where
  | printed : a.output = none → o.output = text → o.directory = d → Delivers a d text o
  | written {path : Text} : a.output = some path → o.output = [] →
      (∀ other, system.Same d path other →
        system.read o.directory other = .content (Utf8.encode text)) →
      (∀ other, ¬ system.Same d path other →
        system.read o.directory other = system.read d other) → Delivers a d text o

variable {a : Arguments} (d : Dir) (stdin : Utf8.Bytes)

/-- A run with arguments fails before anything is written, or it delivers what it produces. -/
theorem runWith_cases :
    (∃ failure, runWith system a d stdin = failed d failure ∧
      (evaluate a (system.read d) stdin = .error failure ∨
        ∃ path text, a.output = some path ∧ evaluate a (system.read d) stdin = .ok text ∧
          system.write? d path (Utf8.encode text) = none)) ∨
    ∃ text, (runWith system a d stdin).status = 0 ∧
      evaluate a (system.read d) stdin = .ok text ∧
      Delivers system a d text (runWith system a d stdin) := by
  rw [runWith]
  split
  case h_1 failure fails => exact .inl ⟨failure, rfl, .inl fails⟩
  case h_2 text produced =>
    split
    case h_1 printed => exact .inr ⟨text, rfl, produced, .printed printed rfl rfl⟩
    case h_2 path named =>
      split
      case h_1 after written =>
        refine .inr ⟨text, rfl, produced, .written named rfl ?_ ?_⟩
        · exact fun other => system.read_of_same written
        · exact fun other => system.read_of_not_same written
      case h_2 fails => exact .inl ⟨_, rfl, .inr ⟨path, text, named, produced, fails⟩⟩

/-- A run that arguments ask for prints nothing and changes no file if it fails. Otherwise what
it delivers, to one place, is the input as a whole under the settings that are selected, rendered
or listed, and a line feed. A configuration file that is there fails the run unless it describes
settings; with settings and a text only a write can fail. -/
theorem runIn_all_or_nothing {args : List Text} (asks : Arguments.ofList args = .ok a) :
    let o := runIn system args d stdin
    (o.status ≠ 0 → o.output = [] ∧ o.directory = d) ∧
    (o.status = 0 → ∃ s t, Configures a (system.read d) s ∧
      Supplies a (system.read d) stdin t ∧
      Delivers system a d ((if a.tree then (Document.ofMarkdown s t).listing
        else (Document.ofMarkdown s t).render) ++ ['\n']) o) ∧
    (system.read d (a.config.getD configFile) ≠ .missing →
      (∀ s, ¬ Describes (system.read d (a.config.getD configFile)) s) → o.status ≠ 0) ∧
    (∀ s t, Configures a (system.read d) s → Supplies a (system.read d) stdin t →
      o.status = 0 ∨ ∃ path, a.output = some path ∧
        system.write? d path (Utf8.encode (result a s t)) = none) := by
  have same : runIn system args d stdin = runWith system a d stdin := by rw [runIn, asks]
  dsimp only
  rw [same]
  obtain ⟨failure, fails, cause⟩ | ⟨text, succeeds, produced, delivers⟩ :=
    runWith_cases system d stdin
  · rw [fails]
    refine ⟨fun _ => ⟨rfl, rfl⟩, nofun, fun _ _ => Nat.one_ne_zero, ?_⟩
    intro s t configures supplies
    have produced := evaluate_eq_ok_iff.mpr ⟨s, t, configures, supplies, rfl⟩
    obtain noText | ⟨path, text, named, produced', unwritten⟩ := cause
    · rw [noText] at produced
      cases produced
    · rw [produced, Except.ok.injEq] at produced'
      rw [← produced'] at unwritten
      exact .inr ⟨path, named, unwritten⟩
  · obtain ⟨s, t, configures, supplies, rfl⟩ := evaluate_eq_ok_iff.mp produced
    refine ⟨fun fails => absurd succeeds fails, fun _ => ⟨s, t, configures, supplies, delivers⟩,
      ?_, fun _ _ _ _ => .inl succeeds⟩
    intro present invalid
    cases configures with
    | file describes => exact absurd describes (invalid s)
    | bundled unnamed missing =>
      rw [unnamed] at present
      exact absurd missing present

end

/-- The output file may be the input file. -/
theorem run_overwrites_input :
    let a : Arguments := { input := some ['a'], output := some ['a'] }
    let d : Directory := [(['a'], Utf8.encode ['b'])]
    Arguments.ofList [['-', 'o'], ['a'], ['a']] = .ok a ∧
      (run [['-', 'o'], ['a'], ['a']] d []).status = 0 ∧
      (run [['-', 'o'], ['a'], ['a']] d []).output = [] ∧
      (run [['-', 'o'], ['a'], ['a']] d []).directory.read ['a'] =
        .content (Utf8.encode ((Document.ofMarkdown .bundled ['b']).render ++ ['\n'])) := by
  intro a d
  have asks : Arguments.ofList [['-', 'o'], ['a'], ['a']] = .ok a := by
    simp [a, Arguments.ofList, Arguments.read, Arguments.isOption, Arguments.readLetters,
      Flag.ofLetter?, Flag.takesValue, Arguments.set, Arguments.setInput, Except.bind]
  have missing : d.read configFile = .missing := rfl
  have present : d.read ['a'] = .content (Utf8.encode ['b']) := rfl
  obtain ⟨-, delivers, -, onlyWrites⟩ := runIn_all_or_nothing Directory.system d [] asks
  have configures : Configures a d.read .bundled := .bundled rfl missing
  have supplies : Supplies a d.read [] ['b'] := .file rfl present
  have succeeds : (run [['-', 'o'], ['a'], ['a']] d []).status = 0 := by
    obtain succeeds | ⟨path, named, unwritten⟩ := onlyWrites _ _ configures supplies
    · exact succeeds
    · obtain rfl := Option.some.inj named
      cases unwritten
  obtain ⟨s, t, configures', supplies', delivered⟩ := delivers succeeds
  rw [configures'.unique configures, supplies'.unique supplies] at delivered
  cases delivered with
  | printed unnamed => cases unnamed
  | @written path named nothing here _ =>
    obtain rfl := Option.some.inj named
    exact ⟨asks, succeeds, nothing, here ['a'] rfl⟩

end TelegramMarkdown.CommandLine
