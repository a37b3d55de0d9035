import SvelteTransform.Console
import SvelteTransform.Main
import SvelteTransform.Options.Decode
import SvelteTransform.Proofs.Worker.Boundary
import SvelteTransform.Proofs.Json.Grammar.Basic
import SvelteTransform.Proofs.Json.Grammar.Strings
import SvelteTransform.Proofs.Json.Grammar.Numbers
import SvelteTransform.Proofs.Json.Fuel
import SvelteTransform.Proofs.Json.Lookup
import SvelteTransform.Proofs.Json.Grammar.Values
import SvelteTransform.Proofs.Json.Grammar.Record
import SvelteTransform.Proofs.Worker.Accepted
import SvelteTransform.Proofs.Transform.Effects
import SvelteTransform.Proofs.Compile.Options
import SvelteTransform.Proofs.Transform.Agreement
import SvelteTransform.Proofs.Worker.Outcome
import SvelteTransform.Proofs.Worker.Limited
import SvelteTransform.Proofs.Worker.Installed
import SvelteTransform.Proofs.Path.Components
import SvelteTransform.Proofs.Path.Ascent
import SvelteTransform.Proofs.Path.Location
import SvelteTransform.Proofs.Config.Nearest
import SvelteTransform.Proofs.Config.Located
import SvelteTransform.Proofs.Config.Widened
import SvelteTransform.Proofs.Worker.Capped
import SvelteTransform.Proofs.Compile.Assembled
import SvelteTransform.Proofs.Options.Meaning
import SvelteTransform.Proofs.Options.Fieldwise
import SvelteTransform.Proofs.Worker.Normalised
import SvelteTransform.Proofs.Options.Placed
import SvelteTransform.Proofs.CommandLine.AsHost
import SvelteTransform.Proofs.CommandLine.Arranged
import SvelteTransform.Proofs.Transform.Transcript
import SvelteTransform.Proofs.Options.Major
import SvelteTransform.Proofs.Compile.Dispatched
import SvelteTransform.Proofs.Json.Grammar.Documents
import SvelteTransform.Proofs.Compile.Lossless
import SvelteTransform.Sandbox.Transform
