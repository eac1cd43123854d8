import SaslBind.Console
import SaslBind.Enumeration.Member
import SaslBind.ErrorClass
import SaslBind.Json.Reader
import SaslBind.Log.Heading
import SaslBind.Proofs.Properties.Alike
import SaslBind.Properties.Slots
import SaslBind.Settings.Assignment
import SaslBind.Value.Integer
import SaslBind.Proofs.Properties.Noninterference
import SaslBind.Proofs.Properties.Invariant
import SaslBind.Proofs.Value.Sorting
import SaslBind.Proofs.CommandLine.Attached
import SaslBind.Proofs.Properties.Frame
import SaslBind.Proofs.Tool.PasswordOptions
import SaslBind.Proofs.Properties.Remade
import SaslBind.Proofs.Text.Utf8
import SaslBind.Proofs.Properties.Secret
import SaslBind.Proofs.CommandLine.Grammar
import SaslBind.Proofs.Tool.Grammar
import SaslBind.Proofs.Files.Askable
import SaslBind.Proofs.Properties.Line
import SaslBind.Proofs.Tool.Refinement
import SaslBind.Proofs.CommandLine.Screen
import SaslBind.Proofs.Qop.Listing
import SaslBind.Proofs.Properties.Rejected
import SaslBind.Proofs.Tool.Outcome
import SaslBind.Proofs.Launcher.Sinks
import SaslBind.Proofs.Text.Lower
import SaslBind.Proofs.Text.Blank
import SaslBind.Proofs.Qop.Naming
import SaslBind.Proofs.Qop.Appending
import SaslBind.Proofs.Launcher.Dispatch
import SaslBind.Proofs.Text.Surrogate
import SaslBind.Proofs.Files.Extension
import SaslBind.Proofs.Files.Contents
import SaslBind.Proofs.Session.Records
import SaslBind.Proofs.Launcher.Records
import SaslBind.Proofs.Settings.Levels
import SaslBind.Proofs.Console.Start
import SaslBind.Proofs.Console.Logging
import SaslBind.Proofs.Properties.Assignable
import SaslBind.Proofs.Text.Joined
import SaslBind.Proofs.Properties.Octets
import SaslBind.Proofs.Properties.Errors
import SaslBind.Proofs.Text.Collision
import SaslBind.Proofs.Toml.Hexadecimal
import SaslBind.Proofs.Launcher.Configuration
import SaslBind.Proofs.Text.Entries
import SaslBind.Proofs.Properties.Typed
import SaslBind.Proofs.Properties.LineTells
import SaslBind.Proofs.Json.RoundTrip
import SaslBind.Proofs.Properties.Order
import SaslBind.Proofs.Properties.Members
import SaslBind.Proofs.Properties.Dumped
import SaslBind.Proofs.Text.Upper
import SaslBind.Proofs.Settings.Fields
import SaslBind.Proofs.Settings.Making
import SaslBind.Proofs.Settings.Again
import SaslBind.Proofs.CommandLine.Strays
import SaslBind.Proofs.Tool.Strays
import SaslBind.Proofs.CommandLine.Alike
import SaslBind.Proofs.Tool.Echo
import SaslBind.Proofs.Properties.SingleLine
import SaslBind.Proofs.Tool.SingleLine
