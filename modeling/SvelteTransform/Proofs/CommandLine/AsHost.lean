import SvelteTransform.CommandLine.Run
import SvelteTransform.Proofs.Options.Fieldwise
import SvelteTransform.Proofs.Worker.Boundary

/-! Configs asked for by arguments and by a host. The command line finds the config that a host
would be led to by the same wishes. Only the empty text for a config is no wish to a host, which
then does without, while the command line takes it for the path that it spells. -/
namespace SvelteTransform.CommandLine

open Json.Reader (bindOk)

def ConfigArguments.wish (a : ConfigArguments) : Json :=
  match a.config with
  | some config => .string config.toString
  | none => .boolean true

def ConfigArguments.asHost (a : ConfigArguments) : Json :=
  .object [("transformerConfig",
    .object [("preprocess", a.wish), ("rootMode", .string a.rootMode.name)])]

/-- The setting that a host comes to. The empty text is no path to it. -/
def ConfigArguments.hostSetting (a : ConfigArguments) : PreprocessSetting :=
  if a.config = some ⟨[]⟩ then .disabled else a.preprocess

theorem pathMeans {config : Path} (given : config ≠ ⟨[]⟩) :
    Options.Means .preprocess (.string config.toString) (PreprocessSetting.path config) := by
  have notEmpty : config.toString ≠ "" := by
    intro empty
    have spelled := Worker.pathSpelled config
    rw [empty] at spelled
    exact given spelled.symm
  have means := Options.Means.path config.toString notEmpty
  rwa [Worker.pathSpelled] at means

theorem wishMeans (a : ConfigArguments) : Options.Means .preprocess a.wish a.hostSetting := by
  obtain ⟨file, mode, config, root⟩ := a
  cases config with
  | none => exact .discover
  | some config =>
    by_cases empty : config = ⟨[]⟩
    · subst empty
      exact .noPath
    · have setting : ConfigArguments.hostSetting ⟨file, mode, some config, root⟩ = .path config :=
        if_neg fun same => empty (Option.some.inj same)
      rw [setting]
      exact pathMeans empty

theorem asHostDecoded (a : ConfigArguments) : Options.ofHost a.asHost =
    .ok { preprocess := a.hostSetting, rootMode := a.rootMode } := by
  have fields : Options.ofHost a.asHost =
      Options.setAll {} [(.preprocess, a.wish), (.rootMode, .string a.rootMode.name)] := rfl
  rw [fields, Options.setAllNext]
  refine bindOk.mpr ⟨a.hostSetting, Options.decodeOk.mpr (wishMeans a), ?_⟩
  rw [Options.setAllNext]
  exact bindOk.mpr ⟨a.rootMode, Options.decodeOk.mpr (.mode _ _ rfl), rfl⟩

theorem emptyPathAsked (a : ConfigArguments) :
    a.preprocess = .path ⟨[]⟩ ↔ a.config = some ⟨[]⟩ := by
  obtain ⟨file, mode, _ | config, root⟩ := a
  · exact ⟨nofun, nofun⟩
  · simp [ConfigArguments.preprocess]

section
variable {m : Type → Type} [Monad m] {a : ConfigArguments} {o : Options}
  (decoded : Options.ofHost a.asHost = .ok o)
include decoded

theorem decodedGiven (given : a.config ≠ some ⟨[]⟩) :
    o = { preprocess := a.preprocess, rootMode := a.rootMode } := by
  have setting : a.hostSetting = a.preprocess := if_neg given
  rw [asHostDecoded, setting] at decoded
  exact (Except.ok.inj decoded).symm

theorem sameConfig (given : a.config ≠ some ⟨[]⟩) (isFile : Path → Bool) (root : Path) :
    configOf isFile root a = configUnder isFile root a.file o.rootMode o.preprocess := by
  rw [decodedGiven decoded given]
  rfl

theorem sameRun (given : a.config ≠ some ⟨[]⟩) (s : Surroundings m) :
    resolveConfig s a = resolveUnder s a.projectRoot a.file o.rootMode o.preprocess := by
  rw [decodedGiven decoded given]
  rfl

theorem emptyConfig (empty : a.config = some ⟨[]⟩) (isFile : Path → Bool) (root : Path) :
    configOf isFile root a = .ok ⟨[]⟩ ∧
      configUnder isFile root a.file o.rootMode o.preprocess = .error .disabled := by
  constructor
  · rw [configOf, configUnder, (emptyPathAsked a).mpr empty]
    rfl
  · have setting : a.hostSetting = .disabled := if_pos empty
    rw [asHostDecoded, setting] at decoded
    cases decoded
    rfl

end

/-- A host's options for the same wishes lead to the same config, or the same failure, in every
file system, exactly unless the config asked for is the empty text; and then the whole command does
the same. No setting of a host is an empty path; one of arguments is if the empty text is given. -/
theorem resolvedAsHost {m : Type → Type} [Monad m] (s : Surroundings m) (a : ConfigArguments) :
    ∃ o, Options.ofHost a.asHost = .ok o ∧
      (∀ isFile root, configOf isFile root a =
          configUnder isFile root a.file o.rootMode o.preprocess ↔ a.config ≠ some ⟨[]⟩) ∧
      (a.config ≠ some ⟨[]⟩ → resolveConfig s a =
        resolveUnder s a.projectRoot a.file o.rootMode o.preprocess) ∧
      Failure.disabled.message = "preprocessing is disabled" ∧
      (a.preprocess = .path ⟨[]⟩ ↔ a.config = some ⟨[]⟩) ∧
      ∀ config p, Options.ofHost config = .ok p → p.preprocess ≠ .path ⟨[]⟩ := by
  have decoded := asHostDecoded a
  refine ⟨_, decoded, fun isFile root => ⟨fun same empty => ?_, fun given => ?_⟩,
    fun given => sameRun decoded given s, rfl, emptyPathAsked a,
    fun config p ok => Options.noEmptyPath (Options.hostFields ok .preprocess)⟩
  · obtain ⟨found, disabled⟩ := emptyConfig decoded empty isFile root
    rw [found, disabled] at same
    cases same
  · exact sameConfig decoded given isFile root

/-- The empty text after the option is printed as the config, where a host does without one. -/
theorem emptyTextTaken : ∃ a,
    parse ["resolve-config", "App.svelte", "--config", ""] = .ok (.resolveConfig a) ∧
    configOf (fun _ => false) (.ofString "/app") a = .ok ⟨[]⟩ ∧
    a.preprocess = .path ⟨[]⟩ ∧
    ∃ o, Options.ofHost a.asHost = .ok o ∧
      configUnder (fun _ => false) (.ofString "/app") a.file o.rootMode o.preprocess =
        .error .disabled ∧
      configOf (fun _ => false) (.ofString "/app") a ≠
        configUnder (fun _ => false) (.ofString "/app") a.file o.rootMode o.preprocess := by
  have parsed : parse ["resolve-config", "App.svelte", "--config", ""] =
      .ok (.resolveConfig ⟨.ofString "App.svelte", .auto, some ⟨[]⟩, none⟩) := by rfl
  obtain ⟨found, disabled⟩ := emptyConfig (asHostDecoded ⟨_, .auto, some ⟨[]⟩, none⟩) rfl
    (fun _ => false) (.ofString "/app")
  refine ⟨_, parsed, found, rfl, _, asHostDecoded _, disabled, fun same => ?_⟩
  rw [found] at same
  cases same.trans disabled

end SvelteTransform.CommandLine
