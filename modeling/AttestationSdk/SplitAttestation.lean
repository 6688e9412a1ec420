import AttestationSdk.CliOutcome

/-! Evidence that one process collects and prints, and another one attests from a file. -/
namespace AttestationSdk.Cli
open AttestationSdk.Claims AttestationSdk.Attestation AttestationSdk.Rim AttestationSdk.Eat
open AttestationSdk.Gpu AttestationSdk.Switch AttestationSdk.Evidence AttestationSdk.Text
open AttestationSdk.Collect AttestationSdk.LocalVerifier Json Effects Prog
variable {σ τ ι : Type}

section Collect
variable {host : Host σ} {options : CommandOptions}

end Collect

section Verify
variable {decodeBlock : List Char → Option Bytes} {files : FileSystem σ} {files' : FileSystem τ}
  {collector : Host σ} {verifier : Host τ} {collect verify : CommandOptions}

/-- The file that a command line names holds the value. -/
structure Holds (decodeBlock : List Char → Option Bytes) (host : Host τ) (options : CommandOptions)
    (shown : Value) (text : String) : Prop where
  parse : host.env.parse text = some shown
  gpus : ∀ source,
    host.machine.gpuEvidenceSourceFromJsonFile options.collection.gpuEvidenceFile = .ok source →
    gpuEvidenceSourceFromJsonString decodeBlock host.env.parse text = .ok source
  switches : ∀ source,
    host.machine.switchEvidenceSourceFromJsonFile options.collection.switchEvidenceFile =
      .ok source →
    switchEvidenceSourceFromJsonString decodeBlock host.env.parse text = .ok source

end Verify

end AttestationSdk.Cli

namespace AttestationSdk.GpuSample
open AttestationSdk.Claims AttestationSdk.Text AttestationSdk.Gpu AttestationSdk.Attestation
open AttestationSdk.Collect AttestationSdk.Evidence AttestationSdk.LocalVerifier AttestationSdk.Cli
open AttestationSdk.Report AttestationSdk.Rim AttestationSdk.Switch AttestationSdk.Eat Json Effects
open Prog

end AttestationSdk.GpuSample
