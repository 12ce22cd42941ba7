import DeviceTwin.Proofs.Command
import DeviceTwin.Proofs.Command.Payload
import DeviceTwin.Proofs.Command.Reach
import DeviceTwin.Proofs.Json.Conversion
import DeviceTwin.Proofs.Json.Places
import DeviceTwin.Proofs.Property.Answerable
import DeviceTwin.Proofs.Property.Decoding
import DeviceTwin.Proofs.Property.Desired
import DeviceTwin.Proofs.Property.Gathering
import DeviceTwin.Proofs.Property.Insertion
import DeviceTwin.Proofs.Property.Ordering
import DeviceTwin.Proofs.Property.Refusal
import DeviceTwin.Proofs.Property.Regression
import DeviceTwin.Proofs.Property.Reporting
import DeviceTwin.Proofs.Property.RoundTrip
import DeviceTwin.Proofs.Property.Wide
import DeviceTwin.Proofs.Registry.Access.ConnectionString
import DeviceTwin.Proofs.Registry.Access.Signing
import DeviceTwin.Proofs.Registry.Addressing
import DeviceTwin.Proofs.Registry.Batch
import DeviceTwin.Proofs.Registry.Failure.Findings
import DeviceTwin.Proofs.Registry.Fidelity
import DeviceTwin.Proofs.Registry.Tag
import DeviceTwin.Proofs.Telemetry
import DeviceTwin.Property.Dispatcher
import DeviceTwin.Race
import DeviceTwin.Registry.Access.Gateway
