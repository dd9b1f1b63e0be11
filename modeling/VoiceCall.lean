import VoiceCall.Signalling.Reconnect
import VoiceCall.Signalling.Readable
import VoiceCall.Signalling.SioEndpoint
import VoiceCall.Signalling.Exceptions
import VoiceCall.Transport.Reception
import VoiceCall.Transport.ConnectionLife
import VoiceCall.Transport.ConnectionRetry
import VoiceCall.Transport.ConnectionPackets
import VoiceCall.Transport.SocketAnswers
import VoiceCall.Transport.SocketLife
import VoiceCall.Transport.SocketAlone
import VoiceCall.Client.Answers
import VoiceCall.Client.Gathering
import VoiceCall.Client.Interference
import VoiceCall.Client.Ending
import VoiceCall.Client.Roles
import VoiceCall.Client.RtpReading
import VoiceCall.Client.Playback
import VoiceCall.Client.Refusals
import VoiceCall.Client.LiveOffers
import VoiceCall.Client.LiveCalls
import VoiceCall.Client.Sequence
import VoiceCall.Client.Devices
import VoiceCall.Network.Roles
import VoiceCall.Network.Agreement
import VoiceCall.Window.EndButton
import VoiceCall.Window.Popup
