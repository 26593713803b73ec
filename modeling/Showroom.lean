import Showroom.Call.Address
import Showroom.Startup
import Showroom.Binary64.Decimal
import Showroom.Yaml.Cursor
import Showroom.Yaml.Scalar
import Showroom.Yaml.Node
import Showroom.Settings.Environment
import Showroom.Settings.Value
import Showroom.Settings.Load
import Showroom.Log.Directive
import Showroom.Log.Filter
import Showroom.Log.Record
import Showroom.Sample.Draws
import Showroom.Sample.Laptop
import Showroom.Client.Calls
import Showroom.Client.Network
import Showroom.Client.Refresher
import Showroom.Client.SharedToken
import Showroom.Sample.Ranges
import Showroom.CommandLine.Arguments
import Showroom.CommandLine.Options
import Showroom.CommandLine.Run
import Showroom.CommandLine.Report
import Showroom.Main
import Showroom.Text.Pattern
import Showroom.Text.Pattern.Reader
import Showroom.Proofs.Access.Isolation
import Showroom.Proofs.Token.Verify
import Showroom.Proofs.Wire.RoundTrip
import Showroom.Proofs.Wire.Slices
import Showroom.Proofs.Access.Admission
import Showroom.Proofs.Service.Consistency
import Showroom.Proofs.Service.Searching
import Showroom.Proofs.Service.Uploading
import Showroom.Proofs.Wire.Concatenation
import Showroom.Proofs.Wire.Forms
import Showroom.Proofs.Wire.Skipping
import Showroom.Proofs.Wire.Merging
import Showroom.Proofs.Account.PasswordHash
import Showroom.Proofs.Access.Login
import Showroom.Proofs.Service.Counting
import Showroom.Proofs.Laptop.Filter
import Showroom.Proofs.Service.Averaging
import Showroom.Proofs.Service.Submission
import Showroom.Proofs.Client.Upload
import Showroom.Proofs.Laptop.Memory
import Showroom.Proofs.Call.Deadline
import Showroom.Proofs.Client.SharedToken
import Showroom.Proofs.Disk.Folders
import Showroom.Proofs.Startup
import Showroom.Proofs.Binary64.Decimal
import Showroom.Proofs.Settings.Loading
import Showroom.Proofs.Settings.Numbers
import Showroom.Proofs.Settings.Environment
import Showroom.Proofs.Settings.Tree
import Showroom.Proofs.Settings.Sources
import Showroom.Proofs.Gallery.Saving
import Showroom.Proofs.Client.Rating
import Showroom.Proofs.Binary64.Monotone
import Showroom.Proofs.Service.Rising
import Showroom.Proofs.Access.Rearranging
import Showroom.Proofs.Client.Refreshing
import Showroom.Proofs.Binary64.Product
import Showroom.Proofs.Binary64.Single
import Showroom.Proofs.Sample.Draws
import Showroom.Proofs.Call.Address
import Showroom.Proofs.CommandLine.Options
import Showroom.Proofs.CommandLine.Run
import Showroom.Proofs.Log.Directive
import Showroom.Proofs.Log.Filter
import Showroom.Proofs.Sample.Laptop
import Showroom.Proofs.Text.Pattern
import Showroom.Proofs.Text.Pattern.Reader
